import SdioFat32.Cells.BitField
import SdioFat32.Core.Rtc

/-!
# RtcFields — what `TR` and `DR` hold, and what is read back from them

Every number of a date goes into two digits and comes back from them.  The weekday does not:
`GET_RTS_WDU` does not mask, so that five bits of the year are read with it.
-/

namespace SdioFat32
namespace Core

open Effects Cells Proc

/-! ## Tens and units -/

section Digits

variable {x : BitVec 8} {y mask : BitVec 32} {posTens posUnits len start width : Nat}

/-! The masks of the macros. -/

theorem mask_one : (0x1#32 : BitVec 32).toNat = 2 ^ 1 - 1 := rfl
theorem mask_two : (0x3#32 : BitVec 32).toNat = 2 ^ 2 - 1 := rfl
theorem mask_three : (0x7#32 : BitVec 32).toNat = 2 ^ 3 - 1 := rfl
theorem mask_four : (0xF#32 : BitVec 32).toNat = 2 ^ 4 - 1 := rfl

theorem and_mask_lt (hmask : mask.toNat = 2 ^ len - 1) : (y &&& mask).toNat < 2 ^ len := by
  have hle : (y &&& mask).toNat ≤ 2 ^ len - 1 := by
    rw [BitVec.toNat_and, ← hmask]
    exact Nat.and_le_right
  have hpos := Nat.two_pow_pos len
  omega

theorem and_mask_of_lt (hmask : mask.toNat = 2 ^ len - 1) (hy : y.toNat < 2 ^ len) :
    y &&& mask = y := by
  apply BitVec.eq_of_toNat_eq
  rw [BitVec.toNat_and, hmask, Nat.and_two_pow_sub_one_eq_mod, Nat.mod_eq_of_lt hy]

/-- A field that the number does not meet. -/
theorem field_setRts_apart (hmask : mask.toNat = 2 ^ len - 1) (horder : posUnits + 4 ≤ posTens)
    (hapart : start + width ≤ posUnits ∨ posTens + len ≤ start) :
    field (setRtsValue x posTens mask posUnits 0xF#32) start width = 0#32 := by
  unfold setRtsValue
  rcases hapart with habove | hbelow
  · have htens : start + width ≤ posTens := by omega
    rw [field_or, field_shiftLeft_above htens, field_shiftLeft_above habove, BitVec.or_zero]
  · have hunits : posUnits + 4 ≤ start := by omega
    rw [field_or, field_shiftLeft_below (and_mask_lt hmask) hbelow,
      field_shiftLeft_below (and_mask_lt mask_four) hunits, BitVec.or_zero]

theorem field_setRts_tens (hmask : mask.toNat = 2 ^ len - 1) (horder : posUnits + 4 ≤ posTens)
    (hfits : posTens + len ≤ 32) :
    field (setRtsValue x posTens mask posUnits 0xF#32) posTens len =
      x.setWidth 32 / 10#32 &&& mask := by
  unfold setRtsValue
  rw [field_or, field_shiftLeft_self (and_mask_lt hmask) hfits,
    field_shiftLeft_below (and_mask_lt mask_four) horder, BitVec.or_zero]

theorem field_setRts_units (horder : posUnits + 4 ≤ posTens) (hfits : posUnits + 4 ≤ 32) :
    field (setRtsValue x posTens mask posUnits 0xF#32) posUnits 4 =
      x.setWidth 32 % 10#32 &&& 0xF#32 := by
  unfold setRtsValue
  rw [field_or, field_shiftLeft_above horder,
    field_shiftLeft_self (and_mask_lt mask_four) hfits, BitVec.zero_or]

theorem getRtsBitfield_eq {v : BitVec 32} {pos : Nat} (hmask : mask <<< pos = fieldMask 32 pos len) :
    getRtsBitfield v pos mask = field v pos len := by
  unfold getRtsBitfield field
  rw [hmask, BitVec.and_comm]

theorem toNat_tens (hmask : mask.toNat = 2 ^ len - 1) (hx : x.toNat < 10 * 2 ^ len) :
    (x.setWidth 32 / 10#32 &&& mask).toNat = x.toNat / 10 := by
  have hvalue : (x.setWidth 32 / 10#32).toNat = x.toNat / 10 := by
    rw [BitVec.toNat_udiv, BitVec.toNat_setWidth_of_le (by decide)]
    rfl
  rw [and_mask_of_lt hmask (by rw [hvalue]; omega), hvalue]

theorem toNat_units : (x.setWidth 32 % 10#32 &&& 0xF#32).toNat = x.toNat % 10 := by
  have hvalue : (x.setWidth 32 % 10#32).toNat = x.toNat % 10 := by
    rw [BitVec.toNat_umod, BitVec.toNat_setWidth_of_le (by decide)]
    rfl
  rw [and_mask_of_lt mask_four (by rw [hvalue]; omega), hvalue]

/-- The two digits of a number that the tens have room for. -/
theorem digits_eq (hmask : mask.toNat = 2 ^ len - 1) (hx : x.toNat < 10 * 2 ^ len) :
    ((x.setWidth 32 / 10#32 &&& mask) * 10#32 + (x.setWidth 32 % 10#32 &&& 0xF#32)).toNat =
      x.toNat := by
  have hbyte := x.isLt
  rw [BitVec.toNat_add, BitVec.toNat_mul, toNat_tens hmask hx, toNat_units]
  simp only [BitVec.toNat_ofNat]
  omega

/-- What `GET_RTS_value` makes of a register. -/
def readDigits (v : BitVec 32) (posTens : Nat) (maskTens : BitVec 32) (posUnits : Nat)
    (maskUnits : BitVec 32) : BitVec 32 :=
  getRtsBitfield v posTens maskTens * 10#32 + getRtsBitfield v posUnits maskUnits

/-- A number is read back from a register that agrees with it on its two digits. -/
theorem readDigits_eq {v : BitVec 32} (hmask : mask.toNat = 2 ^ len - 1)
    (hplace : mask <<< posTens = fieldMask 32 posTens len)
    (hplaceUnits : 0xF#32 <<< posUnits = fieldMask 32 posUnits 4)
    (horder : posUnits + 4 ≤ posTens) (hfits : posTens + len ≤ 32)
    (htens : field v posTens len =
      field (setRtsValue x posTens mask posUnits 0xF#32) posTens len)
    (hunits : field v posUnits 4 = field (setRtsValue x posTens mask posUnits 0xF#32) posUnits 4)
    (hx : x.toNat < 10 * 2 ^ len) :
    readDigits v posTens mask posUnits 0xF#32 = x.setWidth 32 := by
  apply BitVec.eq_of_toNat_eq
  unfold readDigits
  rw [getRtsBitfield_eq hplace, getRtsBitfield_eq hplaceUnits, htens, hunits,
    field_setRts_tens hmask horder hfits, field_setRts_units horder (by omega), digits_eq hmask hx]
  exact (BitVec.toNat_setWidth_of_le (by decide)).symm

end Digits

/-! ## The two registers -/

/-- What `set_datetime_rtc` writes to `TR`. -/
def trBits (time : RtcTime) : BitVec 32 :=
  setRtsHour time.hour ||| setRtsMinute time.minute ||| setRtsSecond time.seconds

/-- What it writes to `DR`. -/
def drBits (date : RtcDate) : BitVec 32 :=
  setRtsYear (bsdYear date.year) ||| setRtsWdu date.week ||| setRtsMonth date.month |||
    setRtsDay date.day

/-- What `get_datetime_rtc` makes of the two. -/
def decodeDatetime (tr dr : BitVec 32) : RtcDateTime where
  date :=
    { day := (readDigits dr 4 0x3#32 0 0xF#32).setWidth 8
      month := (readDigits dr 12 0x1#32 8 0xF#32).setWidth 8
      year := (readDigits dr 20 0xF#32 16 0xF#32 + bsdStartYear).setWidth 16
      week := (dr >>> 13).setWidth 8 }
  time :=
    { hour := (readDigits tr 20 0x3#32 16 0xF#32).setWidth 8
      minute := (readDigits tr 12 0x7#32 8 0xF#32).setWidth 8
      seconds := (readDigits tr 4 0x7#32 0 0xF#32).setWidth 8 }

/-- A date and a time of the calendar, in any year. -/
structure RtcDateTime.Valid (datetime : RtcDateTime) : Prop where
  hour : datetime.time.hour.toNat < 24
  minute : datetime.time.minute.toNat < 60
  seconds : datetime.time.seconds.toNat < 60
  day_pos : 1 ≤ datetime.date.day.toNat
  day_le : datetime.date.day.toNat ≤ 31
  month_pos : 1 ≤ datetime.date.month.toNat
  month_le : datetime.date.month.toNat ≤ 12
  week_pos : 1 ≤ datetime.date.week.toNat
  week_le : datetime.date.week.toNat ≤ 7

section Fields

variable {time : RtcTime} {date : RtcDate} {start width : Nat}

theorem field_trBits_hour (h : 16 ≤ start) :
    field (trBits time) start width = field (setRtsHour time.hour) start width := by
  have hminute : field (setRtsMinute time.minute) start width = 0#32 :=
    field_setRts_apart mask_three (by decide) (by omega)
  have hsecond : field (setRtsSecond time.seconds) start width = 0#32 :=
    field_setRts_apart mask_three (by decide) (by omega)
  rw [trBits, field_or, field_or, hminute, hsecond, BitVec.or_zero, BitVec.or_zero]

theorem field_trBits_minute (hlow : 8 ≤ start) (hhigh : start + width ≤ 16) :
    field (trBits time) start width = field (setRtsMinute time.minute) start width := by
  have hhour : field (setRtsHour time.hour) start width = 0#32 :=
    field_setRts_apart mask_two (by decide) (by omega)
  have hsecond : field (setRtsSecond time.seconds) start width = 0#32 :=
    field_setRts_apart mask_three (by decide) (by omega)
  rw [trBits, field_or, field_or, hhour, hsecond, BitVec.zero_or, BitVec.or_zero]

theorem field_trBits_second (hhigh : start + width ≤ 8) :
    field (trBits time) start width = field (setRtsSecond time.seconds) start width := by
  have hhour : field (setRtsHour time.hour) start width = 0#32 :=
    field_setRts_apart mask_two (by decide) (by omega)
  have hminute : field (setRtsMinute time.minute) start width = 0#32 :=
    field_setRts_apart mask_three (by decide) (by omega)
  rw [trBits, field_or, field_or, hhour, hminute, BitVec.zero_or, BitVec.zero_or]

/-- A field that the weekday does not meet. -/
theorem field_setRtsWdu_apart (hweek : date.week.toNat ≤ 7)
    (hapart : start + width ≤ 13 ∨ 16 ≤ start) : field (setRtsWdu date.week) start width = 0#32 := by
  unfold setRtsWdu
  rcases hapart with habove | hbelow
  · exact field_shiftLeft_above habove
  · have hsmall : (date.week.setWidth 32).toNat < 2 ^ 3 := by
      rw [BitVec.toNat_setWidth_of_le (by decide)]
      omega
    exact field_shiftLeft_below hsmall hbelow

theorem field_drBits_year (hweek : date.week.toNat ≤ 7) (h : 16 ≤ start) :
    field (drBits date) start width = field (setRtsYear (bsdYear date.year)) start width := by
  have hwdu : field (setRtsWdu date.week) start width = 0#32 :=
    field_setRtsWdu_apart hweek (Or.inr h)
  have hmonth : field (setRtsMonth date.month) start width = 0#32 :=
    field_setRts_apart mask_one (by decide) (by omega)
  have hday : field (setRtsDay date.day) start width = 0#32 :=
    field_setRts_apart mask_two (by decide) (by omega)
  rw [drBits, field_or, field_or, field_or, hwdu, hmonth, hday, BitVec.or_zero, BitVec.or_zero,
    BitVec.or_zero]

theorem field_drBits_month (hweek : date.week.toNat ≤ 7) (hlow : 8 ≤ start)
    (hhigh : start + width ≤ 13) :
    field (drBits date) start width = field (setRtsMonth date.month) start width := by
  have hyear : field (setRtsYear (bsdYear date.year)) start width = 0#32 :=
    field_setRts_apart mask_four (by decide) (by omega)
  have hwdu : field (setRtsWdu date.week) start width = 0#32 :=
    field_setRtsWdu_apart hweek (Or.inl hhigh)
  have hday : field (setRtsDay date.day) start width = 0#32 :=
    field_setRts_apart mask_two (by decide) (by omega)
  rw [drBits, field_or, field_or, field_or, hyear, hwdu, hday, BitVec.or_zero, BitVec.zero_or,
    BitVec.zero_or]

theorem field_drBits_day (hweek : date.week.toNat ≤ 7) (hhigh : start + width ≤ 8) :
    field (drBits date) start width = field (setRtsDay date.day) start width := by
  have hyear : field (setRtsYear (bsdYear date.year)) start width = 0#32 :=
    field_setRts_apart mask_four (by decide) (by omega)
  have hwdu : field (setRtsWdu date.week) start width = 0#32 :=
    field_setRtsWdu_apart hweek (Or.inl (by omega))
  have hmonth : field (setRtsMonth date.month) start width = 0#32 :=
    field_setRts_apart mask_one (by decide) (by omega)
  rw [drBits, field_or, field_or, field_or, hyear, hwdu, hmonth, BitVec.zero_or, BitVec.zero_or,
    BitVec.zero_or]

/-- The weekday's own three bits. -/
theorem field_drBits_week (hweek : date.week.toNat ≤ 7) :
    field (drBits date) 13 3 = date.week.setWidth 32 := by
  have hyear : field (setRtsYear (bsdYear date.year)) 13 3 = 0#32 :=
    field_setRts_apart mask_four (by decide) (by decide)
  have hmonth : field (setRtsMonth date.month) 13 3 = 0#32 :=
    field_setRts_apart mask_one (by decide) (by decide)
  have hday : field (setRtsDay date.day) 13 3 = 0#32 :=
    field_setRts_apart mask_two (by decide) (by decide)
  have hsmall : (date.week.setWidth 32).toNat < 2 ^ 3 := by
    rw [BitVec.toNat_setWidth_of_le (by decide)]
    omega
  have hself : field (setRtsWdu date.week) 13 3 = date.week.setWidth 32 :=
    field_shiftLeft_self hsmall (by decide)
  rw [drBits, field_or, field_or, field_or, hyear, hmonth, hday, hself, BitVec.or_zero,
    BitVec.or_zero, BitVec.zero_or]

end Fields

/-! ## What is read back -/

section Decode

variable {time : RtcTime} {date : RtcDate} {tr dr : BitVec 32}

theorem decode_hour (h : time.hour.toNat < 24) :
    (decodeDatetime (trBits time) dr).time.hour = time.hour := by
  have hread : readDigits (trBits time) 20 0x3#32 16 0xF#32 = time.hour.setWidth 32 :=
    readDigits_eq mask_two (by decide) (by decide) (by decide) (by decide)
      (field_trBits_hour (by decide)) (field_trBits_hour (by decide)) (by omega)
  simp [decodeDatetime, hread]

theorem decode_minute (h : time.minute.toNat < 60) :
    (decodeDatetime (trBits time) dr).time.minute = time.minute := by
  have hread : readDigits (trBits time) 12 0x7#32 8 0xF#32 = time.minute.setWidth 32 :=
    readDigits_eq mask_three (by decide) (by decide) (by decide) (by decide)
      (field_trBits_minute (by decide) (by decide)) (field_trBits_minute (by decide) (by decide))
      (by omega)
  simp [decodeDatetime, hread]

theorem decode_seconds (h : time.seconds.toNat < 60) :
    (decodeDatetime (trBits time) dr).time.seconds = time.seconds := by
  have hread : readDigits (trBits time) 4 0x7#32 0 0xF#32 = time.seconds.setWidth 32 :=
    readDigits_eq mask_three (by decide) (by decide) (by decide) (by decide)
      (field_trBits_second (by decide)) (field_trBits_second (by decide)) (by omega)
  simp [decodeDatetime, hread]

theorem decode_day (hweek : date.week.toNat ≤ 7) (h : date.day.toNat ≤ 31) :
    (decodeDatetime tr (drBits date)).date.day = date.day := by
  have hread : readDigits (drBits date) 4 0x3#32 0 0xF#32 = date.day.setWidth 32 :=
    readDigits_eq mask_two (by decide) (by decide) (by decide) (by decide)
      (field_drBits_day hweek (by decide)) (field_drBits_day hweek (by decide)) (by omega)
  simp [decodeDatetime, hread]

theorem decode_month (hweek : date.week.toNat ≤ 7) (h : date.month.toNat ≤ 12) :
    (decodeDatetime tr (drBits date)).date.month = date.month := by
  have hread : readDigits (drBits date) 12 0x1#32 8 0xF#32 = date.month.setWidth 32 :=
    readDigits_eq mask_one (by decide) (by decide) (by decide) (by decide)
      (field_drBits_month hweek (by decide) (by decide))
      (field_drBits_month hweek (by decide) (by decide)) (by omega)
  simp [decodeDatetime, hread]

/-- The years since 1980, modulo 256. -/
theorem toNat_bsdYear (year : BitVec 16) :
    ((bsdYear year).toNat : Int) = ((year.toNat : Int) - 1980) % 256 := by
  have hlt := year.isLt
  unfold bsdYear bsdStartYear
  rw [BitVec.toNat_setWidth, BitVec.toNat_sub, BitVec.toNat_setWidth_of_le (by decide)]
  simp only [BitVec.toNat_ofNat]
  omega

/-- The year comes back with what the eight bits left of it. -/
theorem decode_year (hweek : date.week.toNat ≤ 7) (h : (bsdYear date.year).toNat ≤ 99) :
    (decodeDatetime tr (drBits date)).date.year.toNat = 1980 + (bsdYear date.year).toNat := by
  have hread : readDigits (drBits date) 20 0xF#32 16 0xF#32 = (bsdYear date.year).setWidth 32 :=
    readDigits_eq mask_four (by decide) (by decide) (by decide) (by decide)
      (field_drBits_year hweek (by decide)) (field_drBits_year hweek (by decide)) (by omega)
  simp only [decodeDatetime, hread, bsdStartYear]
  rw [BitVec.toNat_setWidth, BitVec.toNat_add, BitVec.toNat_setWidth_of_le (by decide)]
  simp only [BitVec.toNat_ofNat]
  omega

/-- The five bits above the weekday, which `GET_RTS_WDU` reads along. -/
theorem yearBits_eq_zero_iff (hweek : date.week.toNat ≤ 7) (h : (bsdYear date.year).toNat ≤ 99) :
    field (drBits date) 16 (4 + 1) = 0#32 ↔ (bsdYear date.year).toNat % 20 = 0 := by
  have hunits : (field (drBits date) 16 4).toNat = (bsdYear date.year).toNat % 10 := by
    rw [field_drBits_year hweek (by decide)]
    exact (congrArg BitVec.toNat (field_setRts_units (by decide) (by decide))).trans
      toNat_units
  have htens : (field (drBits date) 20 4).toNat = (bsdYear date.year).toNat / 10 := by
    rw [field_drBits_year hweek (by decide)]
    exact (congrArg BitVec.toNat (field_setRts_tens mask_four (by decide) (by decide))).trans
      (toNat_tens mask_four (by omega))
  have hone : (field (drBits date) 20 1).toNat = (field (drBits date) 20 4).toNat % 2 :=
    field_one (by decide) (drBits date)
  rw [field_append_eq_iff (by decide), BitVec.toNat_inj.symm, BitVec.toNat_inj.symm, hunits, hone,
    htens]
  simp only [BitVec.toNat_ofNat]
  omega

/-- The weekday comes back without bits of the year in every twentieth year. -/
theorem decode_week (hweek : date.week.toNat ≤ 7) (h : (bsdYear date.year).toNat ≤ 99) :
    (decodeDatetime tr (drBits date)).date.week = date.week ↔
      (bsdYear date.year).toNat % 20 = 0 := by
  have hread : (drBits date >>> 13).setWidth 8 = date.week ↔
      field (drBits date) 13 (3 + 5) = date.week.setWidth 32 := by
    rw [field_eq_setWidth]
    constructor
    · intro heq
      rw [heq]
    · intro heq
      have hnarrow := congrArg (BitVec.setWidth 8) heq
      simpa using hnarrow
  have hsmall : (date.week.setWidth 32).toNat < 2 ^ 3 := by
    rw [BitVec.toNat_setWidth_of_le (by decide)]
    omega
  simp only [decodeDatetime]
  rw [hread, field_append_eq_iff hsmall, ← yearBits_eq_zero_iff hweek h]
  simp only [field_drBits_week hweek, true_and]

/-- Everything but the year and the weekday comes back always. -/
theorem decodeDatetime_eq_iff {datetime : RtcDateTime} (hvalid : datetime.Valid)
    (h : (bsdYear datetime.date.year).toNat ≤ 99) :
    decodeDatetime (trBits datetime.time) (drBits datetime.date) = datetime ↔
      datetime.date.year.toNat = 1980 + (bsdYear datetime.date.year).toNat ∧
        (bsdYear datetime.date.year).toNat % 20 = 0 := by
  have hyear := @decode_year datetime.date (trBits datetime.time) hvalid.week_le h
  have hweek := @decode_week datetime.date (trBits datetime.time) hvalid.week_le h
  constructor
  · intro heq
    rw [heq] at hyear hweek
    exact ⟨hyear, hweek.1 rfl⟩
  · rintro ⟨hsame, htwenty⟩
    have hyear' : (decodeDatetime (trBits datetime.time) (drBits datetime.date)).date.year =
        datetime.date.year := BitVec.eq_of_toNat_eq (hyear.trans hsame.symm)
    have hdate : (decodeDatetime (trBits datetime.time) (drBits datetime.date)).date =
        datetime.date :=
      RtcDate.ext (decode_day hvalid.week_le hvalid.day_le)
        (decode_month hvalid.week_le hvalid.month_le) hyear' (hweek.2 htwenty)
    have htime : (decodeDatetime (trBits datetime.time) (drBits datetime.date)).time =
        datetime.time :=
      RtcTime.ext (decode_hour hvalid.hour) (decode_minute hvalid.minute)
        (decode_seconds hvalid.seconds)
    exact RtcDateTime.ext hdate htime

end Decode

end Core
end SdioFat32
