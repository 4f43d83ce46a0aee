import SdioFat32.Core.RtcFields

/-!
# Calendar — `get_datetime_rtc` after `set_datetime_rtc`

`TR` and `DR` keep what was written to them, and a flag of `ISR` that is waited for is up after at
most `delay` polls.  Two things keep a date from coming back: bits of the year in the weekday, and
the year being narrowed to eight bits before its range is checked.
-/

namespace SdioFat32
namespace Core

open Effects Proc

/-! ## The registers as they are kept -/

structure CalendarState where
  tr : BitVec 32
  dr : BitVec 32
  /-- For how many more polls a flag may be down. -/
  quiet : Nat

/-- One poll: the flag is up, or it may still be down. -/
def CalendarState.Polled (s : CalendarState) (flag v : BitVec 32) (s' : CalendarState) : Prop :=
  v &&& flag ≠ 0#32 ∧ s' = s ∨
    v &&& flag = 0#32 ∧ (flag ≠ 0#32 → s.quiet ≠ 0) ∧ s' = { s with quiet := s.quiet - 1 }

/-- A flag is up at the latest `delay` polls after `ISR` was written. -/
def calendar (delay : Nat) : Env RtcEvent RtcEvent.Response CalendarState where
  step s e r s' :=
    match e, r with
    | .read .tr, v => v = s.tr ∧ s' = s
    | .read .dr, v => v = s.dr ∧ s' = s
    | .read _, _ => s' = s
    | .write .tr v, _ => s' = { s with tr := v }
    | .write .dr v, _ => s' = { s with dr := v }
    | .write .isr _, _ => s' = { s with quiet := delay }
    | .write .wpr _, _ => s' = s
    | .poll flag, v => s.Polled flag v s'

/-- `TR` and `DR` hold these values. -/
structure Holds (tr dr : BitVec 32) (s : CalendarState) : Prop where
  tr : s.tr = tr
  dr : s.dr = dr

section Specs

variable {delay fuel : Nat} {flag mask tr dr : BitVec 32} {g : RtcGlobals} {s : CalendarState}
  {D : CalendarState → Prop}

theorem wp_writeWpr {v : BitVec 32} (h : Holds tr dr s) :
    (writeRtc .wpr v).wp (calendar delay) D (fun _ g' s' => g' = g ∧ Holds tr dr s') g s := by
  refine ⟨trivial, ?_⟩
  rintro _ s₁ rfl
  exact ⟨rfl, h⟩

theorem wp_writeTr {v : BitVec 32} (h : Holds tr dr s) :
    (writeRtc .tr v).wp (calendar delay) D (fun _ g' s' => g' = g ∧ Holds v dr s') g s := by
  refine ⟨trivial, ?_⟩
  rintro _ s₁ rfl
  exact ⟨rfl, rfl, h.dr⟩

theorem wp_writeDr {v : BitVec 32} (h : Holds tr dr s) :
    (writeRtc .dr v).wp (calendar delay) D (fun _ g' s' => g' = g ∧ Holds tr v s') g s := by
  refine ⟨trivial, ?_⟩
  rintro _ s₁ rfl
  exact ⟨rfl, h.tr, rfl⟩

/-- A poll that finds the flag down uses up one of those that may. -/
theorem wp_pollRtc (hflag : flag ≠ 0#32) (h : Holds tr dr s) :
    (pollRtc flag).wp (calendar delay) D
      (fun (v : BitVec 32) g' s' =>
        g' = g ∧ Holds tr dr s' ∧ (v &&& flag = 0#32 → s'.quiet < s.quiet)) g s := by
  refine ⟨trivial, ?_⟩
  rintro v s₁ (⟨hup, rfl⟩ | ⟨hdown, hpos, rfl⟩)
  · exact ⟨rfl, h, fun hdown => absurd hdown hup⟩
  · exact ⟨rfl, ⟨h.tr, h.dr⟩, fun _ => Nat.sub_lt (Nat.pos_of_ne_zero (hpos hflag)) Nat.one_pos⟩

theorem wp_setIsr (h : Holds tr dr s) :
    (setIsr mask).wp (calendar delay) D
      (fun _ g' s' => g' = g ∧ s'.quiet = delay ∧ Holds tr dr s') g s := by
  refine ⟨trivial, ?_⟩
  rintro v s₁ rfl
  refine ⟨trivial, ?_⟩
  rintro r s₂ rfl
  exact ⟨rfl, rfl, h.tr, h.dr⟩

theorem wp_clearIsr (h : Holds tr dr s) :
    (clearIsr mask).wp (calendar delay) D
      (fun _ g' s' => g' = g ∧ s'.quiet = delay ∧ Holds tr dr s') g s := by
  refine ⟨trivial, ?_⟩
  rintro v s₁ rfl
  refine ⟨trivial, ?_⟩
  rintro r s₂ rfl
  exact ⟨rfl, rfl, h.tr, h.dr⟩

/-- A wait ends while the bound allows more polls than the flag takes. -/
theorem wp_waitIsr (hflag : flag ≠ 0#32) (hquiet : s.quiet < fuel) (h : Holds tr dr s) :
    (waitIsr fuel flag).wp (calendar delay) D (fun _ g' s' => g' = g ∧ Holds tr dr s') g s := by
  refine wp_iter_total (fun _ g' s' => g' = g ∧ Holds tr dr s') (fun _ _ s' => s'.quiet) ?_ fuel
    ⟨rfl, h⟩ hquiet
  rintro _ g' s' ⟨rfl, hs'⟩
  refine wp_seq (wp_pollRtc hflag hs') ?_
  rintro v g₁ s₁ ⟨rfl, h₁, hpolled⟩
  split
  next hdown => exact ⟨⟨rfl, h₁⟩, hpolled hdown⟩
  next => exact ⟨rfl, h₁⟩

theorem wp_rtcWaitSync (hdelay : delay < fuel) (h : Holds tr dr s) :
    (rtcWaitSync fuel).wp (calendar delay) D
      (fun _ g' s' => g' = { g with isSyncDateRtc := 1#8 } ∧ Holds tr dr s') g s := by
  unfold rtcWaitSync
  refine wp_seq (wp_clearIsr h) ?_
  rintro _ g₁ s₁ ⟨rfl, hquiet, h₁⟩
  refine wp_seq (wp_waitIsr (by decide) (by omega) h₁) ?_
  rintro _ g₂ s₂ ⟨rfl, h₂⟩
  exact ⟨rfl, h₂⟩

theorem wp_enterInit (hdelay : delay < fuel) (h : Holds tr dr s) :
    (enterInit fuel).wp (calendar delay) D (fun _ g' s' => g' = g ∧ Holds tr dr s') g s := by
  unfold enterInit
  refine wp_seq (wp_writeWpr h) ?_
  rintro _ g₁ s₁ ⟨rfl, h₁⟩
  refine wp_seq (wp_writeWpr h₁) ?_
  rintro _ g₂ s₂ ⟨rfl, h₂⟩
  refine wp_seq (wp_setIsr h₂) ?_
  rintro _ g₃ s₃ ⟨rfl, hquiet, h₃⟩
  exact wp_waitIsr (by decide) (by omega) h₃

theorem wp_leaveInit (hdelay : delay < fuel) (h : Holds tr dr s) :
    (leaveInit fuel).wp (calendar delay) D
      (fun _ g' s' => g' = { g with isSyncDateRtc := 1#8 } ∧ Holds tr dr s') g s := by
  unfold leaveInit
  refine wp_seq (wp_clearIsr h) ?_
  rintro _ g₁ s₁ ⟨rfl, _, h₁⟩
  refine wp_seq (wp_writeWpr h₁) ?_
  rintro _ g₂ s₂ ⟨rfl, h₂⟩
  exact wp_rtcWaitSync hdelay h₂

/-! ## The two functions -/

variable {datetime : RtcDateTime}

theorem wp_setDatetimeRtc (hdelay : delay < fuel) (h : Holds tr dr s) :
    (setDatetimeRtc fuel (some datetime)).wp (calendar delay) D
      (fun status g' s' =>
        if 99 < (bsdYear datetime.date.year).toNat then status = -2 ∧ g' = g ∧ Holds tr dr s'
        else status = 0 ∧ g' = { g with isSyncDateRtc := 1#8 } ∧
          Holds (trBits datetime.time) (drBits datetime.date) s') g s := by
  unfold setDatetimeRtc
  dsimp only
  by_cases hyear : 99 < (bsdYear datetime.date.year).toNat
  · have hrefused : bsdMaxYear < bsdYear datetime.date.year := hyear
    rw [if_pos hrefused]
    simp only [if_pos hyear]
    exact ⟨rfl, rfl, h⟩
  · have haccepted : ¬ bsdMaxYear < bsdYear datetime.date.year := hyear
    rw [if_neg haccepted]
    simp only [if_neg hyear]
    refine wp_seq (wp_enterInit hdelay h) ?_
    rintro _ g₁ s₁ ⟨rfl, h₁⟩
    refine wp_seq (wp_writeTr h₁) ?_
    rintro _ g₂ s₂ ⟨rfl, h₂⟩
    refine wp_seq (wp_writeDr h₂) ?_
    rintro _ g₃ s₃ ⟨rfl, h₃⟩
    refine wp_seq (wp_leaveInit hdelay h₃) ?_
    rintro _ g₄ s₄ ⟨rfl, h₄⟩
    exact ⟨rfl, rfl, h₄⟩

theorem wp_getRtsValue_tr {posTens posUnits : Nat} {maskTens maskUnits : BitVec 32}
    (h : Holds tr dr s) :
    (getRtsValue .tr posTens maskTens posUnits maskUnits).wp (calendar delay) D
      (fun v g' s' => v = readDigits tr posTens maskTens posUnits maskUnits ∧ g' = g ∧
        Holds tr dr s') g s := by
  refine ⟨trivial, ?_⟩
  rintro v s₁ ⟨rfl, rfl⟩
  refine ⟨trivial, ?_⟩
  rintro w s₂ ⟨rfl, rfl⟩
  exact ⟨by rw [readDigits, h.tr], rfl, h⟩

theorem wp_getRtsValue_dr {posTens posUnits : Nat} {maskTens maskUnits : BitVec 32}
    (h : Holds tr dr s) :
    (getRtsValue .dr posTens maskTens posUnits maskUnits).wp (calendar delay) D
      (fun v g' s' => v = readDigits dr posTens maskTens posUnits maskUnits ∧ g' = g ∧
        Holds tr dr s') g s := by
  refine ⟨trivial, ?_⟩
  rintro v s₁ ⟨rfl, rfl⟩
  refine ⟨trivial, ?_⟩
  rintro w s₂ ⟨rfl, rfl⟩
  exact ⟨by rw [readDigits, h.dr], rfl, h⟩

theorem wp_getRtsWdu (h : Holds tr dr s) :
    getRtsWdu.wp (calendar delay) D
      (fun v g' s' => v = dr >>> 13 ∧ g' = g ∧ Holds tr dr s') g s := by
  refine ⟨trivial, ?_⟩
  rintro v s₁ ⟨rfl, rfl⟩
  exact ⟨by rw [h.dr], rfl, h⟩

theorem wp_syncIfNeeded (hdelay : delay < fuel) (h : Holds tr dr s) :
    (syncIfNeeded fuel).wp (calendar delay) D (fun _ _ s' => Holds tr dr s') g s := by
  unfold syncIfNeeded
  rw [wp_bind, wp_globals]
  split
  · refine wp_mono (wp_rtcWaitSync hdelay h) ?_
    rintro _ g' s' ⟨_, h'⟩
    exact h'
  · exact h

theorem wp_getDatetimeRtc (hdelay : delay < fuel) (hinit : g.rtcInitialized ≠ 0#32)
    (h : Holds tr dr s) :
    (getDatetimeRtc fuel (some datetime)).wp (calendar delay) D
      (fun result _ s' => result = (0, some (decodeDatetime tr dr)) ∧ Holds tr dr s') g s := by
  unfold getDatetimeRtc
  rw [wp_bind, wp_globals, if_neg (by simp [hinit])]
  refine wp_seq (wp_syncIfNeeded hdelay h) ?_
  rintro _ g₁ s₁ h₁
  refine wp_seq (wp_getRtsValue_tr h₁) ?_
  rintro hour g₂ s₂ ⟨rfl, rfl, h₂⟩
  refine wp_seq (wp_getRtsValue_tr h₂) ?_
  rintro minute g₃ s₃ ⟨rfl, rfl, h₃⟩
  refine wp_seq (wp_getRtsValue_tr h₃) ?_
  rintro seconds g₄ s₄ ⟨rfl, rfl, h₄⟩
  refine wp_seq (wp_getRtsValue_dr h₄) ?_
  rintro day g₅ s₅ ⟨rfl, rfl, h₅⟩
  refine wp_seq (wp_getRtsValue_dr h₅) ?_
  rintro month g₆ s₆ ⟨rfl, rfl, h₆⟩
  refine wp_seq (wp_getRtsWdu h₆) ?_
  rintro week g₇ s₇ ⟨rfl, rfl, h₇⟩
  refine wp_seq (wp_getRtsValue_dr h₇) ?_
  rintro year g₈ s₈ ⟨rfl, rfl, h₈⟩
  exact ⟨rfl, h₈⟩

end Specs

/-! ## The round trip -/

/-- `set_datetime_rtc`, and `get_datetime_rtc` after it where it succeeds. -/
def setThenGet (fuel : Nat) (datetime blank : RtcDateTime) :
    RtcProc (Int × Option (Int × Option RtcDateTime)) := do
  let status ← setDatetimeRtc fuel (some datetime)
  if status = 0 then
    let got ← getDatetimeRtc fuel (some blank)
    return (status, some got)
  else return (status, none)

/-- The years that two digits from 1980 on can name. -/
def InCalendar (year : Nat) : Prop := 1980 ≤ year ∧ year ≤ 2079

instance (year : Nat) : Decidable (InCalendar year) :=
  inferInstanceAs (Decidable (1980 ≤ year ∧ year ≤ 2079))

/-- A date of the calendar comes back as it was set; any other one is refused. -/
def ComesBack (datetime : RtcDateTime) (s s' : CalendarState)
    (result : Int × Option (Int × Option RtcDateTime)) : Prop :=
  if InCalendar datetime.date.year.toNat then result = (0, some (0, some datetime))
  else result = (-2, none) ∧ s'.tr = s.tr ∧ s'.dr = s.dr

/-- The year is refused also by its low eight bits, or the weekday has no bits of it above. -/
def YearKept (year : Nat) : Prop :=
  100 ≤ ((year : Int) - 1980) % 256 ∨ InCalendar year ∧ (year - 1980) % 20 = 0

instance (year : Nat) : Decidable (YearKept year) :=
  inferInstanceAs (Decidable (_ ∨ _))

section RoundTrip

variable {delay fuel : Nat} {g : RtcGlobals} {s : CalendarState} {D : CalendarState → Prop}
  {datetime blank : RtcDateTime}

/-- What a run ends with, by the eight bits of the year. -/
theorem wp_setThenGet (hdelay : delay < fuel) (hinit : g.rtcInitialized ≠ 0#32) :
    (setThenGet fuel datetime blank).wp (calendar delay) D
      (fun result _ s' =>
        if 99 < (bsdYear datetime.date.year).toNat then
          result = (-2, none) ∧ s'.tr = s.tr ∧ s'.dr = s.dr
        else result =
          (0, some (0, some (decodeDatetime (trBits datetime.time) (drBits datetime.date))))) g s := by
  unfold setThenGet
  refine wp_seq (wp_setDatetimeRtc hdelay ⟨rfl, rfl⟩) ?_
  rintro status g₁ s₁ hset
  by_cases hyear : 99 < (bsdYear datetime.date.year).toNat
  · rw [if_pos hyear] at hset
    rcases hset with ⟨rfl, rfl, h₁⟩
    rw [if_neg (by decide)]
    simp only [if_pos hyear]
    exact ⟨rfl, h₁.tr, h₁.dr⟩
  · rw [if_neg hyear] at hset
    rcases hset with ⟨rfl, rfl, h₁⟩
    rw [if_pos rfl]
    simp only [if_neg hyear]
    refine wp_seq (wp_getDatetimeRtc hdelay hinit h₁) ?_
    rintro got g₂ s₂ ⟨rfl, _⟩
    exact rfl

/-- A year that is refused. -/
theorem comesBack_of_refused {s' : CalendarState} {result : Int × Option (Int × Option RtcDateTime)}
    (hyear : 99 < (bsdYear datetime.date.year).toNat)
    (hend : result = (-2, none) ∧ s'.tr = s.tr ∧ s'.dr = s.dr) :
    ComesBack datetime s s' result ↔ YearKept datetime.date.year.toNat := by
  have hbsd := toNat_bsdYear datetime.date.year
  have hout : ¬ InCalendar datetime.date.year.toNat := by
    rintro ⟨hlow, hhigh⟩
    omega
  have hkept : YearKept datetime.date.year.toNat := Or.inl (by omega)
  rw [ComesBack, if_neg hout]
  exact iff_of_true hend hkept

/-- A year that is set. -/
theorem comesBack_of_accepted {s' : CalendarState} (hvalid : datetime.Valid)
    (hyear : (bsdYear datetime.date.year).toNat ≤ 99) :
    ComesBack datetime s s'
        (0, some (0, some (decodeDatetime (trBits datetime.time) (drBits datetime.date)))) ↔
      YearKept datetime.date.year.toNat := by
  have hbsd := toNat_bsdYear datetime.date.year
  by_cases hin : InCalendar datetime.date.year.toNat
  · have hback := decodeDatetime_eq_iff hvalid hyear
    rw [ComesBack, if_pos hin, Prod.mk.injEq, Option.some.injEq, Prod.mk.injEq, Option.some.injEq,
      hback]
    have hyears : (bsdYear datetime.date.year).toNat = datetime.date.year.toNat - 1980 := by
      rcases hin with ⟨hlow, hhigh⟩
      omega
    have hsame : datetime.date.year.toNat = 1980 + (bsdYear datetime.date.year).toNat := by
      rcases hin with ⟨hlow, hhigh⟩
      omega
    have hsmall : ¬ 100 ≤ ((datetime.date.year.toNat : Int) - 1980) % 256 := by omega
    simp only [YearKept, hin, hyears.symm, hsmall, ← hsame, true_and, false_or]
  · -- The date should have been refused.
    have hkept : ¬ YearKept datetime.date.year.toNat := by
      rintro (hlarge | ⟨hin', _⟩)
      · omega
      · exact hin hin'
    rw [ComesBack, if_neg hin]
    refine iff_of_false ?_ hkept
    rintro ⟨hresult, _⟩
    cases hresult

/-- Every run ends, and with what was asked for exactly in the years that are kept. -/
theorem calendar_round_trip_iff (hdelay : delay < fuel) (hvalid : datetime.Valid)
    (hinit : g.rtcInitialized ≠ 0#32) :
    (∀ s', ¬ Reaches (calendar delay) (setThenGet fuel datetime blank g) s .spin s') ∧
      ∀ result g' s', Runs (calendar delay) (setThenGet fuel datetime blank g) s (result, g') s' →
        (ComesBack datetime s s' result ↔ YearKept datetime.date.year.toNat) := by
  refine ⟨fun s' => Prog.wp_not_spin (wp_setThenGet hdelay hinit), ?_⟩
  rintro result g' s' hrun
  have hend := wp_runs (D := fun _ => True) (wp_setThenGet hdelay hinit) hrun
  by_cases hyear : 99 < (bsdYear datetime.date.year).toNat
  · simp only [if_pos hyear] at hend
    exact comesBack_of_refused hyear hend
  · simp only [if_neg hyear] at hend
    rw [hend]
    exact comesBack_of_accepted hvalid (Nat.not_lt.1 hyear)

end RoundTrip

/-! ## Two dates -/

/-- A calendar whose flags are up at once. -/
def promptCalendar (s : CalendarState) : (e : RtcEvent) → RtcEvent.Response e × CalendarState
  | .read .tr => (s.tr, s)
  | .read .dr => (s.dr, s)
  | .read _ => (0#32, s)
  | .write .tr v => ((), { s with tr := v })
  | .write .dr v => ((), { s with dr := v })
  | .write .isr _ => ((), { s with quiet := 0 })
  | .write .wpr _ => ((), s)
  | .poll flag => (BitVec.allOnes 32, if flag = 0#32 then { s with quiet := s.quiet - 1 } else s)

/-- With all flags up a poll uses up nothing, unless it asks for none of them. -/
theorem poll_allOnes {σ : Type} {flag : BitVec 32} {s used : σ} {left : Nat} :
    BitVec.allOnes 32 &&& flag ≠ 0#32 ∧ (if flag = 0#32 then used else s) = s ∨
      BitVec.allOnes 32 &&& flag = 0#32 ∧ (flag ≠ 0#32 → left ≠ 0) ∧
        (if flag = 0#32 then used else s) = used := by
  rw [BitVec.allOnes_and]
  by_cases hflag : flag = 0#32
  · exact Or.inr ⟨hflag, fun hne => absurd hflag hne, if_pos hflag⟩
  · exact Or.inl ⟨hflag, if_neg hflag⟩

theorem promptCalendar_allowed (s : CalendarState) (e : RtcEvent) :
    (calendar 0).step s e (promptCalendar s e).1 (promptCalendar s e).2 := by
  cases e with
  | read r =>
      cases r with
      | tr => exact ⟨rfl, rfl⟩
      | dr => exact ⟨rfl, rfl⟩
      | isr => rfl
      | wpr => rfl
  | write r v =>
      cases r with
      | tr => rfl
      | dr => rfl
      | isr => rfl
      | wpr => rfl
  | poll flag => exact poll_allOnes

def calendarStart : CalendarState := { tr := 0#32, dr := 0x2101#32, quiet := 0 }

def rtcRunning : RtcGlobals := { isSyncDateRtc := 1#8, rtcInitialized := 1#32 }

def noon (year : BitVec 16) (week : BitVec 8) : RtcDateTime where
  date := { day := 15#8, month := 6#8, year := year, week := week }
  time := { hour := 12#8, minute := 34#8, seconds := 56#8 }

theorem noon_valid {year : BitVec 16} {week : BitVec 8} (hpos : 1 ≤ week.toNat)
    (hle : week.toNat ≤ 7) : (noon year week).Valid := by
  refine ⟨?_, ?_, ?_, ?_, ?_, ?_, ?_, hpos, hle⟩
  all_goals simp [noon]

/-- The round trip of noon on a day of `year`. -/
def noonTrip (year : BitVec 16) (week : BitVec 8) :
    RtcProc (Int × Option (Int × Option RtcDateTime)) :=
  setThenGet 1 (noon year week) (noon 1980#16 1#8)

theorem noonTrip_runs {year : BitVec 16} {week : BitVec 8}
    {result : Int × Option (Int × Option RtcDateTime)}
    (hexec : ((noonTrip year week rtcRunning).exec promptCalendar calendarStart).map (fun x => x.1.1)
      = some result) :
    ∃ g' s', Runs (calendar 0) (noonTrip year week rtcRunning) calendarStart (result, g') s' := by
  rw [Option.map_eq_some_iff] at hexec
  rcases hexec with ⟨⟨⟨r, g'⟩, s'⟩, hrun, rfl⟩
  exact ⟨g', s', Prog.exec_runs promptCalendar_allowed hrun⟩

/-- 2000 is kept. -/
theorem calendar_round_trip_2000 :
    ∃ result g' s', Runs (calendar 0) (noonTrip 2000#16 4#8 rtcRunning) calendarStart
      (result, g') s' ∧ ComesBack (noon 2000#16 4#8) calendarStart s' result := by
  have hexec : ((noonTrip 2000#16 4#8 rtcRunning).exec promptCalendar calendarStart).map
      (fun x => x.1.1) = some (0, some (0, some (noon 2000#16 4#8))) := by
    decide +kernel
  rcases noonTrip_runs hexec with ⟨g', s', hrun⟩
  exact ⟨_, g', s', hrun, ((calendar_round_trip_iff (by decide) (noon_valid (by decide) (by decide))
    (by decide)).2 _ g' s' hrun).2 (by decide)⟩

/-- In 2021 weekday 2 comes back as weekday 10, and 2236 is taken for 1980. -/
theorem calendar_round_trip_fails :
    ((noon 2021#16 2#8).Valid ∧ ∃ result g' s',
      Runs (calendar 0) (noonTrip 2021#16 2#8 rtcRunning) calendarStart (result, g') s' ∧
        ¬ ComesBack (noon 2021#16 2#8) calendarStart s' result) ∧
    ((noon 2236#16 1#8).Valid ∧ ∃ result g' s',
      Runs (calendar 0) (noonTrip 2236#16 1#8 rtcRunning) calendarStart (result, g') s' ∧
        ¬ ComesBack (noon 2236#16 1#8) calendarStart s' result) := by
  have h2021 : ((noonTrip 2021#16 2#8 rtcRunning).exec promptCalendar calendarStart).map
      (fun x => x.1.1) = some (0, some (0, some (noon 2021#16 10#8))) := by
    decide +kernel
  have h2236 : ((noonTrip 2236#16 1#8 rtcRunning).exec promptCalendar calendarStart).map
      (fun x => x.1.1) = some (0, some (0, some (noon 1980#16 1#8))) := by
    decide +kernel
  rcases noonTrip_runs h2021 with ⟨g₁, s₁, hrun₁⟩
  rcases noonTrip_runs h2236 with ⟨g₂, s₂, hrun₂⟩
  refine ⟨⟨noon_valid (by decide) (by decide), _, g₁, s₁, hrun₁, ?_⟩,
    noon_valid (by decide) (by decide), _, g₂, s₂, hrun₂, ?_⟩
  · have hin : InCalendar (noon 2021#16 2#8).date.year.toNat := by decide
    rw [ComesBack, if_pos hin]
    decide
  · have hout : ¬ InCalendar (noon 2236#16 1#8).date.year.toNat := by decide
    rw [ComesBack, if_neg hout]
    rintro ⟨hresult, _⟩
    cases hresult

end Core
end SdioFat32
