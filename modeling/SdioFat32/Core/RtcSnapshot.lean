import SdioFat32.Core.Calendar
import Mathlib.Order.Monotone.Defs

/-!
# RtcSnapshot — `get_datetime_rtc` while the calendar runs

The function reads `TR` six times and `DR` seven times, one digit at a time, and the calendar may
advance in between.  Only `DR` is held back: a read of `TR` freezes it until it is read next, which
covers the tens of the day and nothing else.  What the function returns is a value of the calendar
exactly when some value of it has every digit that was read.
-/

namespace SdioFat32
namespace Core

open Effects Cells Proc

/-! ## A running calendar -/

/-- The units of the numbers in a register are decimal digits. -/
def DecimalUnits (v : BitVec 32) : Prop :=
  ∀ pos ∈ [0, 8, 16], (field v pos 4).toNat ≤ 9

instance (v : BitVec 32) : Decidable (DecimalUnits v) :=
  inferInstanceAs (Decidable (∀ pos ∈ [0, 8, 16], (field v pos 4).toNat ≤ 9))

/-- The values the calendar goes through during the call, and which of them is current when. -/
structure RunningCalendar where
  tr : Nat → BitVec 32
  dr : Nat → BitVec 32
  /-- The value that is current at the `i`-th read of `TR` or `DR`. -/
  seen : Nat → Nat
  forwards : Monotone seen
  decimal : ∀ k, DecimalUnits (tr k) ∧ DecimalUnits (dr k)

structure ShadowState where
  /-- How often `TR` and `DR` have been read. -/
  reads : Nat
  /-- `DR` as it was when `TR` was read. -/
  frozen : Option (BitVec 32)
  quiet : Nat

/-- `DR` as a read finds it. -/
def RunningCalendar.shownDr (c : RunningCalendar) (s : ShadowState) : BitVec 32 :=
  s.frozen.getD (c.dr (c.seen s.reads))

/-- The calendar is read and not set.  A flag is up at the latest `delay` polls after `ISR` was
written. -/
def runningCalendar (c : RunningCalendar) (delay : Nat) :
    Env RtcEvent RtcEvent.Response ShadowState where
  req _ e :=
    match e with
    | .write .tr _ => False
    | .write .dr _ => False
    | _ => True
  step s e r s' :=
    match e, r with
    | .read .tr, v =>
        v = c.tr (c.seen s.reads) ∧
          s' = { s with reads := s.reads + 1, frozen := some (c.shownDr s) }
    | .read .dr, v => v = c.shownDr s ∧ s' = { s with reads := s.reads + 1, frozen := none }
    | .read _, _ => s' = s
    | .write .isr _, _ => s' = { s with quiet := delay }
    | .write _ _, _ => s' = s
    | .poll flag, (v : BitVec 32) =>
        v &&& flag ≠ 0#32 ∧ s' = s ∨
          v &&& flag = 0#32 ∧ (flag ≠ 0#32 → s.quiet ≠ 0) ∧ s' = { s with quiet := s.quiet - 1 }

/-! ## What the reads return -/

/-- A number whose digits come from two reads. -/
def twoReads (v w : BitVec 32) (posTens : Nat) (maskTens : BitVec 32) (posUnits : Nat)
    (maskUnits : BitVec 32) : BitVec 32 :=
  getRtsBitfield v posTens maskTens * 10#32 + getRtsBitfield w posUnits maskUnits

/-- What `get_datetime_rtc` returns. -/
def RunningCalendar.shown (c : RunningCalendar) : RtcDateTime where
  date :=
    { day := (twoReads (c.dr (c.seen 0)) (c.dr (c.seen 7)) 4 0x3#32 0 0xF#32).setWidth 8
      month := (twoReads (c.dr (c.seen 8)) (c.dr (c.seen 9)) 12 0x1#32 8 0xF#32).setWidth 8
      year :=
        (twoReads (c.dr (c.seen 11)) (c.dr (c.seen 12)) 20 0xF#32 16 0xF#32 +
          bsdStartYear).setWidth 16
      week := (c.dr (c.seen 10) >>> 13).setWidth 8 }
  time :=
    { hour := (twoReads (c.tr (c.seen 0)) (c.tr (c.seen 1)) 20 0x3#32 16 0xF#32).setWidth 8
      minute := (twoReads (c.tr (c.seen 2)) (c.tr (c.seen 3)) 12 0x7#32 8 0xF#32).setWidth 8
      seconds := (twoReads (c.tr (c.seen 4)) (c.tr (c.seen 5)) 4 0x7#32 0 0xF#32).setWidth 8 }

section Reads

variable {c : RunningCalendar} {delay fuel n : Nat} {fr : Option (BitVec 32)} {g : RtcGlobals}
  {s : ShadowState} {D : ShadowState → Prop} {flag mask : BitVec 32}

/-- So many reads of `TR` and `DR` so far, and `DR` frozen or not. -/
structure After (n : Nat) (fr : Option (BitVec 32)) (s : ShadowState) : Prop where
  reads : s.reads = n
  frozen : s.frozen = fr

theorem wp_clearIsr_running (h : After n fr s) :
    (clearIsr mask).wp (runningCalendar c delay) D
      (fun _ g' s' => g' = g ∧ s'.quiet = delay ∧ After n fr s') g s := by
  refine ⟨trivial, ?_⟩
  rintro v s₁ rfl
  refine ⟨trivial, ?_⟩
  rintro r s₂ rfl
  exact ⟨rfl, rfl, h.reads, h.frozen⟩

/-- A poll that finds the flag down uses up one of those that may. -/
theorem wp_pollRtc_running (hflag : flag ≠ 0#32) (h : After n fr s) :
    (pollRtc flag).wp (runningCalendar c delay) D
      (fun (v : BitVec 32) g' s' =>
        g' = g ∧ After n fr s' ∧ (v &&& flag = 0#32 → s'.quiet < s.quiet)) g s := by
  refine ⟨trivial, ?_⟩
  rintro v s₁ (⟨hup, rfl⟩ | ⟨hdown, hpos, rfl⟩)
  -- The flag is up, or it is down and one poll less may find it so.
  · exact ⟨rfl, h, fun hdown => absurd hdown hup⟩
  · exact ⟨rfl, ⟨h.reads, h.frozen⟩,
      fun _ => Nat.sub_lt (Nat.pos_of_ne_zero (hpos hflag)) Nat.one_pos⟩

theorem wp_waitIsr_running (hflag : flag ≠ 0#32) (hquiet : s.quiet < fuel) (h : After n fr s) :
    (waitIsr fuel flag).wp (runningCalendar c delay) D
      (fun _ g' s' => g' = g ∧ After n fr s') g s := by
  refine wp_iter_total (fun _ g' s' => g' = g ∧ After n fr s') (fun _ _ s' => s'.quiet) ?_ fuel
    ⟨rfl, h⟩ hquiet
  rintro _ g' s₁ ⟨rfl, h₁⟩
  refine wp_seq (wp_pollRtc_running hflag h₁) ?_
  rintro v g₂ s₂ ⟨rfl, h₂, hpolled⟩
  split
  next hdown => exact ⟨⟨rfl, h₂⟩, hpolled hdown⟩
  next => exact ⟨rfl, h₂⟩

theorem wp_syncIfNeeded_running (hdelay : delay < fuel) (h : After n fr s) :
    (syncIfNeeded fuel).wp (runningCalendar c delay) D (fun _ _ s' => After n fr s') g s := by
  unfold syncIfNeeded rtcWaitSync
  rw [wp_bind, wp_globals]
  split
  · refine wp_seq (wp_clearIsr_running h) ?_
    rintro _ g₁ s₁ ⟨rfl, hquiet, h₁⟩
    refine wp_seq (wp_waitIsr_running (by decide) (by omega) h₁) ?_
    rintro _ g₂ s₂ ⟨rfl, h₂⟩
    exact h₂
  · exact h

theorem After.shownDr (h : After n fr s) : c.shownDr s = fr.getD (c.dr (c.seen n)) := by
  rw [RunningCalendar.shownDr, h.reads, h.frozen]

theorem wp_getRtsValue_tr_running {posTens posUnits : Nat} {maskTens maskUnits : BitVec 32}
    (h : After n fr s) :
    (getRtsValue .tr posTens maskTens posUnits maskUnits).wp (runningCalendar c delay) D
      (fun v _ s' =>
        v = twoReads (c.tr (c.seen n)) (c.tr (c.seen (n + 1))) posTens maskTens posUnits
            maskUnits ∧
          After (n + 2) (some (fr.getD (c.dr (c.seen n)))) s') g s := by
  refine ⟨trivial, ?_⟩
  rintro v s₁ ⟨rfl, rfl⟩
  refine ⟨trivial, ?_⟩
  rintro w s₂ ⟨rfl, rfl⟩
  refine ⟨?_, ?_, ?_⟩
  · dsimp only
    rw [h.reads]
    rfl
  · dsimp only
    rw [h.reads]
  · -- `DR` is frozen by the first of the two reads.
    dsimp only
    rw [← h.shownDr]
    rfl

theorem wp_getRtsValue_dr_running {posTens posUnits : Nat} {maskTens maskUnits : BitVec 32}
    (h : After n fr s) :
    (getRtsValue .dr posTens maskTens posUnits maskUnits).wp (runningCalendar c delay) D
      (fun v _ s' =>
        v = twoReads (fr.getD (c.dr (c.seen n))) (c.dr (c.seen (n + 1))) posTens maskTens posUnits
            maskUnits ∧
          After (n + 2) none s') g s := by
  refine ⟨trivial, ?_⟩
  rintro v s₁ ⟨rfl, rfl⟩
  refine ⟨trivial, ?_⟩
  rintro w s₂ ⟨rfl, rfl⟩
  refine ⟨?_, ?_, rfl⟩
  · rw [h.shownDr]
    dsimp only [RunningCalendar.shownDr]
    rw [h.reads]
    rfl
  · dsimp only
    rw [h.reads]

theorem wp_getRtsWdu_running (h : After n fr s) :
    getRtsWdu.wp (runningCalendar c delay) D
      (fun v _ s' => v = fr.getD (c.dr (c.seen n)) >>> 13 ∧ After (n + 1) none s') g s := by
  refine ⟨trivial, ?_⟩
  rintro v s₁ ⟨rfl, rfl⟩
  refine ⟨?_, ?_, rfl⟩
  · dsimp only
    rw [h.shownDr]
  · dsimp only
    rw [h.reads]

/-- Thirteen reads: of the seven of `DR` the first one finds it as it was at the first read of
`TR`, the last one leaves it unfrozen. -/
theorem wp_getDatetimeRtc_running {blank : RtcDateTime} (hdelay : delay < fuel)
    (hinit : g.rtcInitialized ≠ 0#32) (h : After 0 none s) :
    (getDatetimeRtc fuel (some blank)).wp (runningCalendar c delay) D
      (fun result _ s' => result = (0, some c.shown) ∧ After 13 none s') g s := by
  unfold getDatetimeRtc
  rw [wp_bind, wp_globals, if_neg (by simp [hinit])]
  refine wp_seq (wp_syncIfNeeded_running hdelay h) ?_
  rintro _ g₁ s₁ h₁
  refine wp_seq (wp_getRtsValue_tr_running h₁) ?_
  rintro hour g₂ s₂ ⟨rfl, h₂⟩
  refine wp_seq (wp_getRtsValue_tr_running h₂) ?_
  rintro minute g₃ s₃ ⟨rfl, h₃⟩
  refine wp_seq (wp_getRtsValue_tr_running h₃) ?_
  rintro seconds g₄ s₄ ⟨rfl, h₄⟩
  refine wp_seq (wp_getRtsValue_dr_running h₄) ?_
  rintro day g₅ s₅ ⟨rfl, h₅⟩
  refine wp_seq (wp_getRtsValue_dr_running h₅) ?_
  rintro month g₆ s₆ ⟨rfl, h₆⟩
  refine wp_seq (wp_getRtsWdu_running h₆) ?_
  rintro week g₇ s₇ ⟨rfl, h₇⟩
  refine wp_seq (wp_getRtsValue_dr_running h₇) ?_
  rintro year g₈ s₈ ⟨rfl, h₈⟩
  exact ⟨rfl, h₈⟩

end Reads

/-! ## Digits -/

section Digits

variable {v w u mask : BitVec 32} {posTens posUnits len : Nat}

theorem toNat_twoReads (hlen : len ≤ 4) (hplace : mask <<< posTens = fieldMask 32 posTens len)
    (hplaceUnits : 0xF#32 <<< posUnits = fieldMask 32 posUnits 4) :
    (twoReads v w posTens mask posUnits 0xF#32).toNat =
      10 * (field v posTens len).toNat + (field w posUnits 4).toNat := by
  have htens : (field v posTens len).toNat < 2 ^ 4 :=
    Nat.lt_of_lt_of_le (field_lt v posTens len) (Nat.pow_le_pow_right (by decide) hlen)
  have hunits := field_lt w posUnits 4
  unfold twoReads
  rw [getRtsBitfield_eq hplace, getRtsBitfield_eq hplaceUnits, BitVec.toNat_add, BitVec.toNat_mul]
  simp only [BitVec.toNat_ofNat]
  omega

theorem twoReads_lt (hlen : len ≤ 4) (hplace : mask <<< posTens = fieldMask 32 posTens len)
    (hplaceUnits : 0xF#32 <<< posUnits = fieldMask 32 posUnits 4) :
    (twoReads v w posTens mask posUnits 0xF#32).toNat < 256 := by
  have htens : (field v posTens len).toNat < 2 ^ 4 :=
    Nat.lt_of_lt_of_le (field_lt v posTens len) (Nat.pow_le_pow_right (by decide) hlen)
  have hunits := field_lt w posUnits 4
  rw [toNat_twoReads hlen hplace hplaceUnits]
  omega

/-- A number of decimal digits determines them. -/
theorem twoReads_eq_iff (hlen : len ≤ 4) (hplace : mask <<< posTens = fieldMask 32 posTens len)
    (hplaceUnits : 0xF#32 <<< posUnits = fieldMask 32 posUnits 4)
    (hw : (field w posUnits 4).toNat ≤ 9) (hu : (field u posUnits 4).toNat ≤ 9) :
    twoReads v w posTens mask posUnits 0xF#32 = readDigits u posTens mask posUnits 0xF#32 ↔
      field v posTens len = field u posTens len ∧ field w posUnits 4 = field u posUnits 4 := by
  have hread : readDigits u posTens mask posUnits 0xF#32 =
      twoReads u u posTens mask posUnits 0xF#32 := rfl
  rw [hread, BitVec.toNat_eq, toNat_twoReads hlen hplace hplaceUnits,
    toNat_twoReads hlen hplace hplaceUnits, BitVec.toNat_eq, BitVec.toNat_eq]
  -- `10 * t + u` with units below 10
  omega

theorem setWidth_eq_iff {x y : BitVec 32} {k : Nat} (hx : x.toNat < 2 ^ k) (hy : y.toNat < 2 ^ k) :
    x.setWidth k = y.setWidth k ↔ x = y := by
  rw [BitVec.toNat_eq, BitVec.toNat_setWidth, BitVec.toNat_setWidth, Nat.mod_eq_of_lt hx,
    Nat.mod_eq_of_lt hy, BitVec.toNat_eq]

/-- The same for a number stored in a byte. -/
theorem byte_twoReads_eq_iff (hlen : len ≤ 4)
    (hplace : mask <<< posTens = fieldMask 32 posTens len)
    (hplaceUnits : 0xF#32 <<< posUnits = fieldMask 32 posUnits 4)
    (hw : (field w posUnits 4).toNat ≤ 9) (hu : (field u posUnits 4).toNat ≤ 9) :
    (twoReads v w posTens mask posUnits 0xF#32).setWidth 8 =
        (readDigits u posTens mask posUnits 0xF#32).setWidth 8 ↔
      field v posTens len = field u posTens len ∧ field w posUnits 4 = field u posUnits 4 := by
  have hv8 : (twoReads v w posTens mask posUnits 0xF#32).toNat < 2 ^ 8 :=
    twoReads_lt hlen hplace hplaceUnits
  have hu8 : (readDigits u posTens mask posUnits 0xF#32).toNat < 2 ^ 8 :=
    twoReads_lt hlen hplace hplaceUnits
  rw [setWidth_eq_iff hv8 hu8, twoReads_eq_iff hlen hplace hplaceUnits hw hu]

theorem year_twoReads_eq_iff (hw : (field w 16 4).toNat ≤ 9) (hu : (field u 16 4).toNat ≤ 9) :
    (twoReads v w 20 0xF#32 16 0xF#32 + bsdStartYear).setWidth 16 =
        (readDigits u 20 0xF#32 16 0xF#32 + bsdStartYear).setWidth 16 ↔
      field v 20 4 = field u 20 4 ∧ field w 16 4 = field u 16 4 := by
  have hv8 : (twoReads v w 20 0xF#32 16 0xF#32).toNat < 256 :=
    twoReads_lt (Nat.le_refl 4) (by decide) (by decide)
  have hu8 : (readDigits u 20 0xF#32 16 0xF#32).toNat < 256 :=
    twoReads_lt (Nat.le_refl 4) (by decide) (by decide)
  -- Up to 255 years after 1980 still fit into 16 bits.
  have hsum : ∀ {x : BitVec 32}, x.toNat < 256 → (x + bsdStartYear).toNat = x.toNat + 1980 := by
    intro x hx
    rw [BitVec.toNat_add, bsdStartYear, BitVec.toNat_ofNat]
    omega
  rw [setWidth_eq_iff (by rw [hsum hv8]; omega) (by rw [hsum hu8]; omega), BitVec.add_left_inj,
    twoReads_eq_iff (Nat.le_refl 4) (by decide) (by decide) hw hu]

/-- The weekday is returned with the bits of the year above it. -/
theorem week_eq_iff : (v >>> 13).setWidth 8 = (u >>> 13).setWidth 8 ↔ field v 13 8 = field u 13 8 := by
  rw [field_eq_setWidth, field_eq_setWidth]
  constructor
  · intro heq
    rw [heq]
  · intro heq
    have hnarrow := congrArg (BitVec.setWidth 8) heq
    simpa using hnarrow

end Digits

/-! ## Snapshots -/

/-- The reads of `TR`: the number of the read, and the digit it is for. -/
def trReads : List (Nat × Nat × Nat) :=
  [(0, 20, 2), (1, 16, 4), (2, 12, 3), (3, 8, 4), (4, 4, 3), (5, 0, 4)]

/-- The same for `DR`; what its first read finds is from the first read of `TR`, and the weekday
is read with bits of the year. -/
def drReads : List (Nat × Nat × Nat) :=
  [(0, 4, 2), (7, 0, 4), (8, 12, 1), (9, 8, 4), (10, 13, 8), (11, 20, 4), (12, 16, 4)]

/-- No digit is different when it is read from what it is in the `k`-th value. -/
structure RunningCalendar.Steady (c : RunningCalendar) (k : Nat) : Prop where
  tr : ∀ x ∈ trReads, field (c.tr (c.seen x.1)) x.2.1 x.2.2 = field (c.tr k) x.2.1 x.2.2
  dr : ∀ x ∈ drReads, field (c.dr (c.seen x.1)) x.2.1 x.2.2 = field (c.dr k) x.2.1 x.2.2

variable {c : RunningCalendar} {k : Nat}

theorem RunningCalendar.units_tr (c : RunningCalendar) (k : Nat) {pos : Nat}
    (hpos : pos ∈ [0, 8, 16]) : (field (c.tr k) pos 4).toNat ≤ 9 :=
  (c.decimal k).1 pos hpos

theorem RunningCalendar.units_dr (c : RunningCalendar) (k : Nat) {pos : Nat}
    (hpos : pos ∈ [0, 8, 16]) : (field (c.dr k) pos 4).toNat ≤ 9 :=
  (c.decimal k).2 pos hpos

theorem shown_time_iff : c.shown.time = (decodeDatetime (c.tr k) (c.dr k)).time ↔
    ∀ x ∈ trReads, field (c.tr (c.seen x.1)) x.2.1 x.2.2 = field (c.tr k) x.2.1 x.2.2 := by
  have hhour := byte_twoReads_eq_iff (v := c.tr (c.seen 0)) (by decide : 2 ≤ 4)
    (by decide : 0x3#32 <<< 20 = fieldMask 32 20 2) (by decide : 0xF#32 <<< 16 = fieldMask 32 16 4)
    (c.units_tr (c.seen 1) (by decide)) (c.units_tr k (by decide))
  have hminute := byte_twoReads_eq_iff (v := c.tr (c.seen 2)) (by decide : 3 ≤ 4)
    (by decide : 0x7#32 <<< 12 = fieldMask 32 12 3) (by decide : 0xF#32 <<< 8 = fieldMask 32 8 4)
    (c.units_tr (c.seen 3) (by decide)) (c.units_tr k (by decide))
  have hseconds := byte_twoReads_eq_iff (v := c.tr (c.seen 4)) (by decide : 3 ≤ 4)
    (by decide : 0x7#32 <<< 4 = fieldMask 32 4 3) (by decide : 0xF#32 <<< 0 = fieldMask 32 0 4)
    (c.units_tr (c.seen 5) (by decide)) (c.units_tr k (by decide))
  rw [RtcTime.ext_iff]
  simp only [RunningCalendar.shown, decodeDatetime, hhour, hminute, hseconds, trReads,
    List.forall_mem_cons, List.not_mem_nil, false_implies, implies_true, and_true, and_assoc]

theorem shown_date_iff : c.shown.date = (decodeDatetime (c.tr k) (c.dr k)).date ↔
    ∀ x ∈ drReads, field (c.dr (c.seen x.1)) x.2.1 x.2.2 = field (c.dr k) x.2.1 x.2.2 := by
  have hday := byte_twoReads_eq_iff (v := c.dr (c.seen 0)) (by decide : 2 ≤ 4)
    (by decide : 0x3#32 <<< 4 = fieldMask 32 4 2) (by decide : 0xF#32 <<< 0 = fieldMask 32 0 4)
    (c.units_dr (c.seen 7) (by decide)) (c.units_dr k (by decide))
  have hmonth := byte_twoReads_eq_iff (v := c.dr (c.seen 8)) (by decide : 1 ≤ 4)
    (by decide : 0x1#32 <<< 12 = fieldMask 32 12 1) (by decide : 0xF#32 <<< 8 = fieldMask 32 8 4)
    (c.units_dr (c.seen 9) (by decide)) (c.units_dr k (by decide))
  have hyear := year_twoReads_eq_iff (v := c.dr (c.seen 11))
    (c.units_dr (c.seen 12) (by decide)) (c.units_dr k (by decide))
  rw [RtcDate.ext_iff]
  simp only [RunningCalendar.shown, decodeDatetime, hday, hmonth, hyear, week_eq_iff, drReads,
    List.forall_mem_cons, List.not_mem_nil, false_implies, implies_true, and_true, and_assoc]
  -- The weekday is read before the year, and stands behind it in the date.
  constructor
  · rintro ⟨htens, hunits, hmonthTens, hmonthUnits, hyearTens, hyearUnits, hweek⟩
    exact ⟨htens, hunits, hmonthTens, hmonthUnits, hweek, hyearTens, hyearUnits⟩
  · rintro ⟨htens, hunits, hmonthTens, hmonthUnits, hweek, hyearTens, hyearUnits⟩
    exact ⟨htens, hunits, hmonthTens, hmonthUnits, hyearTens, hyearUnits, hweek⟩

theorem shown_eq_iff : c.shown = decodeDatetime (c.tr k) (c.dr k) ↔ c.Steady k := by
  rw [RtcDateTime.ext_iff, shown_date_iff, shown_time_iff]
  constructor
  · rintro ⟨hdate, htime⟩
    exact ⟨htime, hdate⟩
  · rintro ⟨htime, hdate⟩
    exact ⟨hdate, htime⟩

/-- The call returns a value that the calendar held until the last read. -/
def Snapshot (c : RunningCalendar) (result : Int × Option RtcDateTime) : Prop :=
  ∃ k ≤ c.seen 12, result = (0, some (decodeDatetime (c.tr k) (c.dr k)))

/-- A call comes to an end, and returns a value of the calendar exactly when some value that was
current by then has all the digits that were read. -/
theorem get_datetime_snapshot_iff {delay fuel : Nat} {g : RtcGlobals} {s : ShadowState}
    {blank : RtcDateTime} (hdelay : delay < fuel) (hinit : g.rtcInitialized ≠ 0#32)
    (hreads : s.reads = 0) (hfrozen : s.frozen = none) :
    (∀ s', ¬Reaches (runningCalendar c delay) (getDatetimeRtc fuel (some blank) g) s .spin s') ∧
      ∀ result g' s', Runs (runningCalendar c delay) (getDatetimeRtc fuel (some blank) g) s
          (result, g') s' →
        (Snapshot c result ↔ ∃ k ≤ c.seen 12, c.Steady k) := by
  have hstart : After 0 none s := ⟨hreads, hfrozen⟩
  refine ⟨fun s' => Prog.wp_not_spin (wp_getDatetimeRtc_running hdelay hinit hstart), ?_⟩
  intro result g' s' hrun
  rcases wp_runs (D := fun _ => False) (wp_getDatetimeRtc_running hdelay hinit hstart) hrun with
    ⟨rfl, _⟩
  have hvalue : ∀ k, (0, some c.shown) = ((0 : Int), some (decodeDatetime (c.tr k) (c.dr k))) ↔
      c.Steady k := by
    intro k
    rw [Prod.mk.injEq, Option.some.injEq, shown_eq_iff]
    exact and_iff_right rfl
  simp only [Snapshot, hvalue]

/-! ## From 01:59:59 to 02:00:00 -/

def beforeTwo : RtcDateTime where
  date := { day := 15#8, month := 6#8, year := 2000#16, week := 4#8 }
  time := { hour := 1#8, minute := 59#8, seconds := 59#8 }

def atTwo : RtcDateTime where
  date := beforeTwo.date
  time := { hour := 2#8, minute := 0#8, seconds := 0#8 }

/-- A calendar that advances from 01:59:59 to 02:00:00 after `n` reads. -/
def tickAfter (n : Nat) : RunningCalendar where
  tr k := if k = 0 then trBits beforeTwo.time else trBits atTwo.time
  dr _ := drBits beforeTwo.date
  seen i := if i < n then 0 else 1
  forwards := by
    intro i j hij
    dsimp only
    split
    · exact Nat.zero_le _
    · rw [if_neg (by omega)]
  decimal := by
    intro k
    refine ⟨?_, by decide⟩
    split
    · decide
    · decide

/-- A strategy of the environment: the flags are up at once. -/
def promptRunning (c : RunningCalendar) (s : ShadowState) :
    (e : RtcEvent) → RtcEvent.Response e × ShadowState
  | .read .tr =>
      (c.tr (c.seen s.reads), { s with reads := s.reads + 1, frozen := some (c.shownDr s) })
  | .read .dr => (c.shownDr s, { s with reads := s.reads + 1, frozen := none })
  | .read _ => (0#32, s)
  | .write .isr _ => ((), { s with quiet := 0 })
  | .write _ _ => ((), s)
  | .poll flag => (BitVec.allOnes 32, if flag = 0#32 then { s with quiet := s.quiet - 1 } else s)

theorem promptRunning_allowed (c : RunningCalendar) (s : ShadowState) (e : RtcEvent) :
    (runningCalendar c 0).step s e (promptRunning c s e).1 (promptRunning c s e).2 := by
  cases e with
  | read r =>
      cases r with
      | tr => exact ⟨rfl, rfl⟩
      | dr => exact ⟨rfl, rfl⟩
      | isr => rfl
      | wpr => rfl
  | write r v =>
      cases r with
      | tr => rfl
      | dr => rfl
      | isr => rfl
      | wpr => rfl
  | poll flag => exact poll_allOnes

/-- No read of `TR` or `DR` has been made yet. -/
def shadowStart : ShadowState := { reads := 0, frozen := none, quiet := 0 }

/-- The calendar advances after the last read. -/
theorem get_datetime_snapshot_quiet :
    ∃ result g' s', Runs (runningCalendar (tickAfter 13) 0)
        (getDatetimeRtc 1 (some atTwo) rtcRunning) shadowStart (result, g') s' ∧
      Snapshot (tickAfter 13) result := by
  have hexec : ((getDatetimeRtc 1 (some atTwo) rtcRunning).exec (promptRunning (tickAfter 13))
      shadowStart).map (fun x => x.1.1) = some (0, some (tickAfter 13).shown) := by
    decide +kernel
  rcases Prog.exec_returns (promptRunning_allowed _) hexec with ⟨g', s', hrun⟩
  have hsteady : (tickAfter 13).Steady 0 := ⟨by decide, by decide⟩
  have hiff := (get_datetime_snapshot_iff (by decide) (by decide) rfl rfl).2 _ g' s' hrun
  exact ⟨_, g', s', hrun, hiff.2 ⟨0, Nat.zero_le _, hsteady⟩⟩

/-- It advances between the hour and the minutes: the call returns 01:00:00. -/
theorem get_datetime_torn :
    ∃ result g' s', Runs (runningCalendar (tickAfter 2) 0)
        (getDatetimeRtc 1 (some atTwo) rtcRunning) shadowStart (result, g') s' ∧
      ¬Snapshot (tickAfter 2) result := by
  have hexec : ((getDatetimeRtc 1 (some atTwo) rtcRunning).exec (promptRunning (tickAfter 2))
      shadowStart).map (fun x => x.1.1) = some (0, some (tickAfter 2).shown) := by
    decide +kernel
  rcases Prog.exec_returns (promptRunning_allowed _) hexec with ⟨g', s', hrun⟩
  refine ⟨_, g', s', hrun, ?_⟩
  rintro ⟨k, hk, heq⟩
  have hlast : (tickAfter 2).seen 12 = 1 := rfl
  rw [hlast] at hk
  rw [Prod.mk.injEq, Option.some.injEq] at heq
  -- Neither 01:59:59 nor 02:00:00.
  have htime := congrArg RtcDateTime.time heq.2
  rcases Nat.le_one_iff_eq_zero_or_eq_one.1 hk with rfl | rfl
  · exact absurd htime (by decide)
  · exact absurd htime (by decide)

end Core
end SdioFat32
