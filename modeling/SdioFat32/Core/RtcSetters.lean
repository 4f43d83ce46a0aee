import SdioFat32.Core.Calendar
import SdioFat32.Core.Rcc
import SdioFat32.Effects.Interp

/-!
# RtcSetters — `set_date_rtc` and `set_time_rtc` against `set_datetime_rtc`

`set_datetime_rtc` narrows the years since 1980 to eight bits, checks them, and writes their two
digits.  `set_date_rtc` checks the same number as an `int` and then writes the digits of the year
itself; of its tens only four bits fit, which are those of the other setter plus 6.  So the two
setters agree on the years that both refuse, and on no other ones.
-/

namespace SdioFat32
namespace Core

open Effects Cells Proc

/-! ## Two peripherals -/

/-- Accesses to the registers of the RTC and of the RCC. -/
inductive BoardEvent where
  | rtc (e : RtcEvent)
  | rcc (e : RccEvent)

def BoardEvent.Response : BoardEvent → Type
  | .rtc e => e.Response
  | .rcc e => e.Response

abbrev BoardProc (α : Type) : Type := Proc RtcGlobals BoardEvent BoardEvent.Response α

def onRtc {α : Type} (p : RtcProc α) : BoardProc α := p.embed BoardEvent.rtc fun _ r => r

def onRcc {α : Type} (p : RccProc α) : BoardProc α := p.aside BoardEvent.rcc fun _ r => r

/-! ## The setters -/

/-- `SET_RTS_YEAR` of a `uint16_t`. -/
def setRtsYearWide (year : BitVec 16) : BitVec 32 :=
  (year.setWidth 32 / 10#32 &&& 0xF#32) <<< 20 ||| (year.setWidth 32 % 10#32 &&& 0xF#32) <<< 16

def setTimeRtc (fuel : Nat) (time : Option RtcTime) : RtcProc Int := do
  match time with
  | none => return -1
  | some time =>
      enterInit fuel
      writeRtc .tr (setRtsHour time.hour ||| setRtsMinute time.minute ||| setRtsSecond time.seconds)
      leaveInit fuel
      return 0

/-- The years are compared as `int`; the configuration is read and not used. -/
def setDateRtc (fuel : Nat) (date : Option RtcDate) : BoardProc Int := do
  match date with
  | none => return -1
  | some date =>
      -- An `int`, not narrowed before the check.
      let years : Int := date.year.toNat - 1980
      if years > 99 ∨ years < 0 then return -2
      let _ ← onRcc getRccClockDividers
      onRtc do
        enterInit fuel
        writeRtc .dr (setRtsYearWide date.year ||| setRtsWdu date.week ||| setRtsMonth date.month |||
          setRtsDay date.day)
        leaveInit fuel
        return 0

/-- `set_datetime_rtc` on the board. -/
def setTogether (fuel : Nat) (datetime : RtcDateTime) : BoardProc Int :=
  onRtc (setDatetimeRtc fuel (some datetime))

/-- `set_date_rtc`, and `set_time_rtc` after it where it succeeds. -/
def setSeparately (fuel : Nat) (datetime : RtcDateTime) : BoardProc Int := do
  let status ← setDateRtc fuel (some datetime.date)
  if status = 0 then
    onRtc (setTimeRtc fuel (some datetime.time))
  else
    return status

/-! ## The board -/

/-- The calendar as before; the RCC has no part in it. -/
def board (delay : Nat) : Env BoardEvent BoardEvent.Response CalendarState where
  step s e r s' :=
    match e, r with
    | .rtc e, r => (calendar delay).step s e r s'
    | .rcc _, _ => s' = s

/-- An RCC of which nothing is known. -/
def anyRcc : Env RccEvent RccEvent.Response CalendarState where
  step s _ _ s' := s' = s

/-- What `set_date_rtc` writes to `DR`. -/
def drBitsWide (date : RtcDate) : BitVec 32 :=
  setRtsYearWide date.year ||| setRtsWdu date.week ||| setRtsMonth date.month ||| setRtsDay date.day

section Specs

variable {delay fuel : Nat} {tr dr : BitVec 32} {g : RtcGlobals} {s : CalendarState}
  {D : CalendarState → Prop} {datetime : RtcDateTime} {date : RtcDate} {time : RtcTime}

theorem wp_onRtc {α : Type} {p : RtcProc α} {Q : α → RtcGlobals → CalendarState → Prop}
    (h : p.wp (calendar delay) D Q g s) : (onRtc p).wp (board delay) D Q g s := by
  unfold onRtc
  refine wp_embed ?_ ?_ h
  · exact fun _ _ _ => trivial
  · exact fun _ _ _ _ hstep => hstep

theorem wp_readReg_any {r : RccReg} :
    (readReg r).wp anyRcc D (fun _ _ s' => s' = s) () s :=
  ⟨trivial, fun _ _ hstep => hstep⟩

/-- Reading the dividers does not touch the calendar. -/
theorem wp_dividers_any :
    (onRcc getRccClockDividers).wp (board delay) D (fun _ g' s' => g' = g ∧ s' = s) g s := by
  have hreads : getRccClockDividers.wp anyRcc D (fun _ _ s' => s' = s) () s := by
    unfold getRccClockDividers
    refine wp_seq wp_readReg_any ?_
    rintro _ _ _ rfl
    refine wp_seq wp_readReg_any ?_
    rintro _ _ _ rfl
    refine wp_seq wp_readReg_any ?_
    rintro _ _ _ rfl
    refine wp_seq wp_readReg_any ?_
    rintro _ _ _ rfl
    rfl
  unfold onRcc
  refine wp_aside ?_ ?_ hreads
  · exact fun _ _ _ => trivial
  · exact fun _ _ _ _ hstep => hstep

theorem wp_setTimeRtc (hdelay : delay < fuel) (h : Holds tr dr s) :
    (setTimeRtc fuel (some time)).wp (calendar delay) D
      (fun status _ s' => status = 0 ∧ Holds (trBits time) dr s') g s := by
  unfold setTimeRtc
  refine wp_seq (wp_enterInit hdelay h) ?_
  rintro _ g₁ s₁ ⟨rfl, h₁⟩
  refine wp_seq (wp_writeTr h₁) ?_
  rintro _ g₂ s₂ ⟨rfl, h₂⟩
  refine wp_seq (wp_leaveInit hdelay h₂) ?_
  rintro _ g₃ s₃ ⟨rfl, h₃⟩
  exact ⟨rfl, h₃⟩

/-- The years that `set_date_rtc` accepts are those of the calendar. -/
theorem wp_setDateRtc (hdelay : delay < fuel) (h : Holds tr dr s) :
    (setDateRtc fuel (some date)).wp (board delay) D
      (fun status _ s' =>
        if InCalendar date.year.toNat then status = 0 ∧ Holds tr (drBitsWide date) s'
        else status = -2) g s := by
  unfold setDateRtc
  dsimp only
  by_cases hyear : InCalendar date.year.toNat
  · have haccepted : ¬((date.year.toNat : Int) - 1980 > 99 ∨ (date.year.toNat : Int) - 1980 < 0) := by
      rcases hyear with ⟨hlow, hhigh⟩
      omega
    rw [if_neg haccepted]
    simp only [if_pos hyear]
    -- The dividers are read, and not used.
    refine wp_seq wp_dividers_any ?_
    rintro _ g₁ s₁ ⟨rfl, rfl⟩
    refine wp_onRtc (wp_seq (wp_enterInit hdelay h) ?_)
    rintro _ g₂ s₂ ⟨rfl, h₂⟩
    refine wp_seq (wp_writeDr h₂) ?_
    rintro _ g₃ s₃ ⟨rfl, h₃⟩
    refine wp_seq (wp_leaveInit hdelay h₃) ?_
    rintro _ g₄ s₄ ⟨rfl, h₄⟩
    exact ⟨rfl, h₄⟩
  · have hrefused : (date.year.toNat : Int) - 1980 > 99 ∨ (date.year.toNat : Int) - 1980 < 0 := by
      rw [InCalendar] at hyear
      omega
    rw [if_pos hrefused]
    simp only [if_neg hyear]
    rfl

theorem wp_setSeparately (hdelay : delay < fuel) :
    (setSeparately fuel datetime).wp (board delay) D
      (fun status _ s' =>
        if InCalendar datetime.date.year.toNat then
          status = 0 ∧ Holds (trBits datetime.time) (drBitsWide datetime.date) s'
        else status = -2) g s := by
  unfold setSeparately
  refine wp_seq (wp_setDateRtc hdelay ⟨rfl, rfl⟩) ?_
  rintro status g₁ s₁ hdate
  by_cases hyear : InCalendar datetime.date.year.toNat
  · rw [if_pos hyear] at hdate
    rcases hdate with ⟨rfl, h₁⟩
    rw [if_pos rfl]
    simp only [if_pos hyear]
    exact wp_onRtc (wp_setTimeRtc hdelay h₁)
  · rw [if_neg hyear] at hdate
    subst hdate
    rw [if_neg (by decide)]
    simp only [if_neg hyear]
    rfl

theorem wp_setTogether (hdelay : delay < fuel) :
    (setTogether fuel datetime).wp (board delay) D
      (fun status _ s' =>
        if 99 < (bsdYear datetime.date.year).toNat then status = -2
        else status = 0 ∧ Holds (trBits datetime.time) (drBits datetime.date) s') g s := by
  refine wp_mono (wp_onRtc (wp_setDatetimeRtc hdelay ⟨rfl, rfl⟩)) ?_
  intro status g' s' hset
  split
  · rename_i hyear
    rw [if_pos hyear] at hset
    exact hset.1
  · rename_i hyear
    rw [if_neg hyear] at hset
    exact ⟨hset.1, hset.2.2⟩

end Specs

/-! ## The tens of the year -/

section Tens

variable {date : RtcDate}

theorem field_setRtsYearWide (year : BitVec 16) :
    (field (setRtsYearWide year) 20 4).toNat = year.toNat / 10 % 16 := by
  have hyear := year.isLt
  unfold setRtsYearWide
  rw [field_or, field_shiftLeft_self (and_mask_lt mask_four) (by decide),
    field_shiftLeft_below (and_mask_lt mask_four) (by decide), BitVec.or_zero, BitVec.toNat_and,
    BitVec.toNat_udiv, BitVec.toNat_setWidth_of_le (by decide), mask_four,
    Nat.and_two_pow_sub_one_eq_mod]
  rfl

theorem field_drBitsWide_tens (hweek : date.week.toNat ≤ 7) :
    (field (drBitsWide date) 20 4).toNat = date.year.toNat / 10 % 16 := by
  have hwdu : field (setRtsWdu date.week) 20 4 = 0#32 :=
    field_setRtsWdu_apart hweek (Or.inr (by decide))
  have hmonth : field (setRtsMonth date.month) 20 4 = 0#32 :=
    field_setRts_apart mask_one (by decide) (by decide)
  have hday : field (setRtsDay date.day) 20 4 = 0#32 :=
    field_setRts_apart mask_two (by decide) (by decide)
  rw [drBitsWide, field_or, field_or, field_or, hwdu, hmonth, hday, BitVec.or_zero, BitVec.or_zero,
    BitVec.or_zero, field_setRtsYearWide]

theorem field_drBits_tens (hweek : date.week.toNat ≤ 7) (h : (bsdYear date.year).toNat ≤ 99) :
    (field (drBits date) 20 4).toNat = (bsdYear date.year).toNat / 10 := by
  rw [field_drBits_year hweek (by decide)]
  exact (congrArg BitVec.toNat (field_setRts_tens mask_four (by decide) (by decide))).trans
    (toNat_tens mask_four (by omega))

/-- 198 tens before 1980 are 6 tens in four bits. -/
theorem drBitsWide_ne (hweek : date.week.toNat ≤ 7) (hyear : InCalendar date.year.toNat) :
    drBitsWide date ≠ drBits date := by
  intro heq
  have hbsd := toNat_bsdYear date.year
  rcases hyear with ⟨hlow, hhigh⟩
  -- The tens of the whole year and of the years since 1980, both in four bits.
  have htens := field_drBits_tens hweek (by omega)
  rw [← heq, field_drBitsWide_tens hweek] at htens
  omega

end Tens

/-! ## Agreement -/

/-- Both setters accept the date or neither does, and if they do, the registers end up alike. -/
def SettersAgree (together separately : Int × CalendarState) : Prop :=
  (separately.1 = 0 ↔ together.1 = 0) ∧
    (together.1 = 0 → separately.2.tr = together.2.tr ∧ separately.2.dr = together.2.dr)

theorem refused_ne_zero : (-2 : Int) ≠ 0 := by decide

/-- Both ways of setting a date and a time come to an end, and they agree exactly on the years
whose distance to 1980 has low eight bits of at least 100. -/
theorem rtc_setters_agree_iff {delay fuel : Nat} {g : RtcGlobals} {s : CalendarState}
    {datetime : RtcDateTime} (hdelay : delay < fuel) (hvalid : datetime.Valid) :
    (∀ s', ¬Reaches (board delay) (setTogether fuel datetime g) s .spin s' ∧
      ¬Reaches (board delay) (setSeparately fuel datetime g) s .spin s') ∧
    ∀ a gₐ sₐ b gₑ sₑ, Runs (board delay) (setTogether fuel datetime g) s (a, gₐ) sₐ →
      Runs (board delay) (setSeparately fuel datetime g) s (b, gₑ) sₑ →
      (SettersAgree (a, sₐ) (b, sₑ) ↔
        100 ≤ ((datetime.date.year.toNat : Int) - 1980) % 256) := by
  have hbsd := toNat_bsdYear datetime.date.year
  refine ⟨?_, ?_⟩
  · intro s'
    exact ⟨Prog.wp_not_spin (wp_setTogether hdelay), Prog.wp_not_spin (wp_setSeparately hdelay)⟩
  intro a gₐ sₐ b gₑ sₑ htogether hseparately
  have ha := wp_runs (D := fun _ => False) (wp_setTogether hdelay) htogether
  have hb := wp_runs (D := fun _ => False) (wp_setSeparately hdelay) hseparately
  by_cases hyear : InCalendar datetime.date.year.toNat
  · -- Both setters accept the year, and the tens of it come out differently.
    have hsmall : ¬99 < (bsdYear datetime.date.year).toNat := by
      rcases hyear with ⟨hlow, hhigh⟩
      omega
    rw [if_neg hsmall] at ha
    rw [if_pos hyear] at hb
    refine iff_of_false ?_ (by omega)
    rintro ⟨_, hregs⟩
    -- `DR` after the one setter would be `DR` after the other.
    refine drBitsWide_ne hvalid.week_le hyear ?_
    calc
      drBitsWide datetime.date = sₑ.dr := hb.2.dr.symm
      _ = sₐ.dr := (hregs ha.1).2
      _ = drBits datetime.date := ha.2.dr
  · rw [if_neg hyear] at hb
    subst hb
    by_cases hlarge : 99 < (bsdYear datetime.date.year).toNat
    · -- Both refuse, and nothing is said about the registers.
      rw [if_pos hlarge] at ha
      subst ha
      refine iff_of_true ⟨Iff.rfl, ?_⟩ (by omega)
      intro hzero
      exact absurd hzero refused_ne_zero
    · -- A year far from 1980, which only the narrowed one is taken for.
      rw [if_neg hlarge] at ha
      refine iff_of_false ?_ (by omega)
      rintro ⟨haccept, _⟩
      exact absurd (haccept.2 ha.1) refused_ne_zero

/-! ## Three years -/

/-- A board whose calendar is prompt and whose RCC reads as zero. -/
def promptBoard (s : CalendarState) : (e : BoardEvent) → BoardEvent.Response e × CalendarState
  | .rtc e => promptCalendar s e
  | .rcc (.read _) => (0#32, s)
  | .rcc (.write _ _) => ((), s)
  | .rcc .indeterminate => (0#32, s)

theorem promptBoard_allowed (s : CalendarState) (e : BoardEvent) :
    (board 0).step s e (promptBoard s e).1 (promptBoard s e).2 := by
  cases e with
  | rtc e => exact promptCalendar_allowed s e
  | rcc e =>
      cases e with
      | read r => rfl
      | write r v => rfl
      | indeterminate => rfl

/-- How the two ways of setting a date and a time end on the prompt board. -/
def SetOnBoard (datetime : RtcDateTime) (together separately : Int × CalendarState) : Prop :=
  (∃ g', Runs (board 0) (setTogether 1 datetime rtcRunning) calendarStart (together.1, g')
      together.2) ∧
    ∃ g', Runs (board 0) (setSeparately 1 datetime rtcRunning) calendarStart (separately.1, g')
      separately.2

/-- The status of a run against the prompt board, with `TR` and `DR` after it. -/
def boardEnd (p : BoardProc Int) : Option (Int × BitVec 32 × BitVec 32) :=
  ((p rtcRunning).exec promptBoard calendarStart).map fun x => (x.1.1, x.2.tr, x.2.dr)

theorem runs_of_boardEnd {p : BoardProc Int} {status : Int} {tr dr : BitVec 32}
    (hend : boardEnd p = some (status, tr, dr)) :
    ∃ g' s', Runs (board 0) (p rtcRunning) calendarStart (status, g') s' ∧ s'.tr = tr ∧
      s'.dr = dr := by
  rcases Prog.exec_ends (fun s : CalendarState => (s.tr, s.dr)) promptBoard_allowed hend with
    ⟨g', s', hrun, hregs⟩
  rcases Prod.mk.inj hregs with ⟨htr, hdr⟩
  exact ⟨g', s', hrun, htr, hdr⟩

/-- 1979 is refused by both. -/
theorem rtc_setters_agree_1979 :
    ∃ together separately, SetOnBoard (noon 1979#16 1#8) together separately ∧
      SettersAgree together separately := by
  have htogether : boardEnd (setTogether 1 (noon 1979#16 1#8)) = some (-2, 0#32, 0x2101#32) := by
    decide +kernel
  have hseparately : boardEnd (setSeparately 1 (noon 1979#16 1#8)) =
      some (-2, 0#32, 0x2101#32) := by
    decide +kernel
  rcases runs_of_boardEnd htogether with ⟨gₐ, sₐ, hrunₐ, _, _⟩
  rcases runs_of_boardEnd hseparately with ⟨gₑ, sₑ, hrunₑ, _, _⟩
  have hvalid : (noon 1979#16 1#8).Valid := noon_valid (by decide) (by decide)
  have hiff := (rtc_setters_agree_iff Nat.one_pos hvalid).2 _ gₐ sₐ _ gₑ sₑ hrunₐ hrunₑ
  exact ⟨(-2, sₐ), (-2, sₑ), ⟨⟨gₐ, hrunₐ⟩, gₑ, hrunₑ⟩, hiff.2 (by decide)⟩

/-- In 2021 `DR` is left with tens 4 by one setter and 10 by the other one; 2236 is refused by one
setter only. -/
theorem rtc_setters_disagree :
    ((noon 2021#16 2#8).Valid ∧ ∃ together separately,
      SetOnBoard (noon 2021#16 2#8) together separately ∧ ¬SettersAgree together separately) ∧
    ((noon 2236#16 1#8).Valid ∧ ∃ together separately,
      SetOnBoard (noon 2236#16 1#8) together separately ∧ ¬SettersAgree together separately) := by
  -- In 2021 the two encode the year differently; 2236 only one of them refuses.
  have htogether : boardEnd (setTogether 1 (noon 2021#16 2#8)) =
      some (0, 0x123456#32, 0x414615#32) := by
    decide +kernel
  have hseparately : boardEnd (setSeparately 1 (noon 2021#16 2#8)) =
      some (0, 0x123456#32, 0xA14615#32) := by
    decide +kernel
  have htogether' : boardEnd (setTogether 1 (noon 2236#16 1#8)) =
      some (0, 0x123456#32, 0x2615#32) := by
    decide +kernel
  have hseparately' : boardEnd (setSeparately 1 (noon 2236#16 1#8)) =
      some (-2, 0#32, 0x2101#32) := by
    decide +kernel
  rcases runs_of_boardEnd htogether with ⟨gₐ, sₐ, hrunₐ, _, hdrₐ⟩
  rcases runs_of_boardEnd hseparately with ⟨gₑ, sₑ, hrunₑ, _, hdrₑ⟩
  rcases runs_of_boardEnd htogether' with ⟨gₐ', sₐ', hrunₐ', _, _⟩
  rcases runs_of_boardEnd hseparately' with ⟨gₑ', sₑ', hrunₑ', _, _⟩
  refine ⟨⟨noon_valid (by decide) (by decide), (0, sₐ), (0, sₑ), ⟨⟨gₐ, hrunₐ⟩, gₑ, hrunₑ⟩, ?_⟩,
    noon_valid (by decide) (by decide), (0, sₐ'), (-2, sₑ'), ⟨⟨gₐ', hrunₐ'⟩, gₑ', hrunₑ'⟩, ?_⟩
  · rintro ⟨_, hregs⟩
    have hdr : sₑ.dr = sₐ.dr := (hregs rfl).2
    rw [hdrₐ, hdrₑ] at hdr
    exact absurd hdr (by decide)
  · rintro ⟨haccept, _⟩
    exact absurd (haccept.2 rfl) refused_ne_zero

end Core
end SdioFat32
