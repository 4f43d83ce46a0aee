import SdioFat32.Core.RtcCalls

/-!
# RtcSetup — `init_rtc` on the device

* `wp_resetBackupDomain_device` — from any state of the device its backup domain is reset;
* `wp_awaitHse_device` — an oscillator that starts is awaited, and so is one that never does;
* `wp_configureRtcClockRcc_device` — the HSE is selected, or the device is left without a clock;
* `wp_initRtc_device` — the calendar counts from its reset value, at the rate of the HSE;
* `wp_initRtc_lifeless` — without an oscillator `init_rtc` does not return.
-/

namespace SdioFat32
namespace Core

open Effects Proc Relation

/-- Since the backup domain was reset the RTC has no clock. -/
structure Asleep (delay : Nat) (osc : HseFact) (domain : BitVec 32) (s : RtcDevice) : Prop where
  dbp : s.dbp = true
  domain : s.domain = domain
  hse : osc.Holds s.crystal s.hserdy
  key : s.key = .locked
  init : s.init = false
  initf : s.initf = false
  calendar : s.calendar = resetCalendar
  quiet : s.quiet ≤ delay

/-- What is known once the oscillator was waited for. -/
def HseFact.awaited : HseFact → HseFact
  | .starts => .runs
  | osc => osc

/-- The wait for the oscillator fails for certain neither if it starts nor if it never does. -/
def HseFact.Reported (osc : HseFact) : Prop := osc = .starts ∨ osc = .dead

section Init

variable {advance : CalendarValue → CalendarValue → Prop} {delay fuel : Nat} {osc : HseFact}
  {d mask v : BitVec 32} {g : RtcGlobals} {u : Unit} {s : RtcDevice} {D : RtcDevice → Prop}

theorem Asleep.not_clocked (h : Asleep delay osc d s) (hoff : d &&& rccBdcrRtcen = 0#32) :
    ¬s.Clocked := by
  rw [RtcDevice.Clocked, h.domain, hoff]
  exact fun hclocked => hclocked.1 rfl

/-- Without a clock only the oscillator does something by itself. -/
theorem Asleep.moves {s' : RtcDevice} (h : Asleep delay osc d s)
    (hoff : d &&& rccBdcrRtcen = 0#32)
    (hmoves : ReflTransGen (RtcDevice.Moves advance) s s') :
    Asleep delay osc d s' ∧ ∃ hserdy, s' = { s with hserdy := hserdy } := by
  induction hmoves with
  | refl => exact ⟨h, s.hserdy, rfl⟩
  | tail _ hmove ih =>
      obtain ⟨h₁, hserdy, rfl⟩ := ih
      have hhse := stable_holds _ _ hmove h₁.hse
      cases hmove with
      | second hclocked => exact absurd hclocked (h₁.not_clocked hoff)
      | stop hclocked => exact absurd hclocked (h₁.not_clocked hoff)
      | start hstarting =>
          exact ⟨⟨h₁.dbp, h₁.domain, hhse, h₁.key, h₁.init, h₁.initf, h₁.calendar, h₁.quiet⟩,
            true, rfl⟩

theorem wp_clockAccess_asleep {e : ClockSourceEvent}
    {Q : e.Response → Unit → RtcDevice → Prop} (h : Asleep delay osc d s)
    (hoff : d &&& rccBdcrRtcen = 0#32)
    (hstep : ∀ s₁ r s', Asleep delay osc d s₁ → (∃ hserdy, s₁ = { s with hserdy := hserdy }) →
      clockStep delay s₁ e r s' → Q r u s') :
    (perform e : ClockSourceProc e.Response).wp (clockAlone advance delay) D Q u s := by
  refine wp_perform.2 ⟨fun _ _ => trivial, ?_⟩
  rintro r s' ⟨s₁, hmoves, hr⟩
  obtain ⟨h₁, hsame⟩ := h.moves hoff hmoves
  exact hstep s₁ r s' h₁ hsame hr

/-! ### The bits of `BDCR` -/

/-- Only the bits of the mask count. -/
theorem writeBdcr_eq (hdbp : s.dbp = true) (hv : v &&& domainMask = d)
    (hnone : d &&& rccBdcrBdrst = 0#32) : s.writeBdcr delay v = { s with domain := d } := by
  have hin : domainMask &&& rccBdcrBdrst = rccBdcrBdrst := by decide
  have hbdrst : v &&& rccBdcrBdrst = d &&& rccBdcrBdrst := by
    rw [← hv, BitVec.and_assoc, hin]
  rw [RtcDevice.writeBdcr, if_pos hdbp, hbdrst, hv, if_neg (not_not.2 hnone)]

theorem wp_setSource_bdcr (h : Asleep delay osc d s) (hd : d &&& domainMask = d)
    (hoff : d &&& rccBdcrRtcen = 0#32)
    (hnone : (d ||| mask &&& domainMask) &&& rccBdcrBdrst = 0#32) :
    (setSource .bdcr mask).wp (clockAlone advance delay) D
      (fun _ _ s' => Asleep delay osc (d ||| mask &&& domainMask) s' ∧ s'.rtcpre = s.rtcpre)
      u s := by
  refine wp_bind.2 (wp_clockAccess_asleep h hoff ?_)
  rintro s₁ (v : BitVec 32) _ h₁ ⟨_, hs₁⟩ ⟨hv, rfl⟩
  refine wp_clockAccess_asleep h₁ hoff ?_
  rintro s₂ _ _ h₂ ⟨_, hs₂⟩ rfl
  have hwritten : (v ||| mask) &&& domainMask = d ||| mask &&& domainMask := by
    rw [BitVec.and_or_distrib_right, hv, h₁.domain, hd]
  rw [writeBdcr_eq h₂.dbp hwritten hnone]
  refine ⟨⟨h₂.dbp, rfl, h₂.hse, h₂.key, h₂.init, h₂.initf, h₂.calendar, h₂.quiet⟩, ?_⟩
  rw [hs₂, hs₁]

theorem wp_clearSource_bdcr (h : Asleep delay osc d s) (hd : d &&& domainMask = d)
    (hoff : d &&& rccBdcrRtcen = 0#32) (hnone : d &&& ~~~mask &&& rccBdcrBdrst = 0#32) :
    (clearSource .bdcr mask).wp (clockAlone advance delay) D
      (fun _ _ s' => Asleep delay osc (d &&& ~~~mask) s' ∧ s'.rtcpre = s.rtcpre) u s := by
  refine wp_bind.2 (wp_clockAccess_asleep h hoff ?_)
  rintro s₁ (v : BitVec 32) _ h₁ ⟨_, hs₁⟩ ⟨hv, rfl⟩
  refine wp_clockAccess_asleep h₁ hoff ?_
  rintro s₂ _ _ h₂ ⟨_, hs₂⟩ rfl
  have hwritten : v &&& ~~~mask &&& domainMask = d &&& ~~~mask := by
    rw [BitVec.and_assoc, BitVec.and_comm (~~~mask), ← BitVec.and_assoc, hv, h₁.domain, hd]
  rw [writeBdcr_eq h₂.dbp hwritten hnone]
  refine ⟨⟨h₂.dbp, rfl, h₂.hse, h₂.key, h₂.init, h₂.initf, h₂.calendar, h₂.quiet⟩, ?_⟩
  rw [hs₂, hs₁]

theorem stable_dbp :
    Stable (RtcDevice.Moves advance) (fun s => s.dbp = true ∧ osc.Holds s.crystal s.hserdy) := by
  rintro s _ hmove ⟨hdbp, hhse⟩
  have hhse' := stable_holds _ _ hmove hhse
  cases hmove with
  | second => exact ⟨hdbp, hhse'⟩
  | stop => exact ⟨hdbp, hhse'⟩
  | start => exact ⟨hdbp, hhse'⟩

/-- From any state the backup domain is reset. -/
theorem wp_resetBackupDomain_device (hhse : osc.Holds s.crystal s.hserdy) :
    resetBackupDomain.wp (clockAlone advance delay) D (fun _ _ s' => Asleep delay osc 0#32 s')
      u s := by
  unfold resetBackupDomain
  refine wp_seq (P := fun _ _ s' => s'.dbp = true ∧ osc.Holds s'.crystal s'.hserdy) ?_ ?_
  · refine wp_bind.2 (wp_perform.2 ⟨fun _ _ => trivial, ?_⟩)
    rintro (v : BitVec 32) _ ⟨s₁, hmoves, -, rfl⟩
    have hhse₁ := stable_holds.turns hmoves hhse
    refine wp_perform.2 ⟨fun _ _ => trivial, ?_⟩
    rintro _ _ ⟨s₂, hmoves', rfl⟩
    have hdbp : (v ||| powerCrDbp).getLsbD 8 = true := by
      simp [powerCrDbp]
    have hhse₂ := stable_holds.turns hmoves' hhse₁
    exact ⟨hdbp, hhse₂⟩
  rintro _ _ s₁ h₁
  refine wp_seq (P := fun _ _ s' => Asleep delay osc rccBdcrBdrst s') ?_ ?_
  · refine wp_bind.2 (wp_perform.2 ⟨fun _ _ => trivial, ?_⟩)
    rintro (v : BitVec 32) _ ⟨s₂, hmoves, -, rfl⟩
    have h₂ := stable_dbp.turns hmoves h₁
    refine wp_perform.2 ⟨fun _ _ => trivial, ?_⟩
    rintro _ _ ⟨s₃, hmoves', rfl⟩
    have h₃ := stable_dbp.turns hmoves' h₂
    have hset : (v ||| rccBdcrBdrst) &&& rccBdcrBdrst ≠ 0#32 := by
      intro hzero
      have hbit := congrArg (BitVec.getLsbD · 16) hzero
      simp [rccBdcrBdrst] at hbit
    rw [RtcDevice.writeBdcr, if_pos h₃.1, if_pos hset]
    exact ⟨h₃.1, rfl, h₃.2, rfl, rfl, rfl, rfl, Nat.le_refl _⟩
  rintro _ _ s₂ h₂
  refine wp_mono (wp_clearSource_bdcr h₂ (by decide) (by decide) (by decide)) ?_
  rintro _ _ s₃ ⟨h₃, -⟩
  have hcleared : rccBdcrBdrst &&& ~~~rccBdcrBdrst = 0#32 := by decide
  rw [hcleared] at h₃
  exact h₃

/-! ### The oscillator -/

theorem no_clock : 0#32 &&& rccBdcrRtcen = 0#32 := by decide

/-- A test of the ready flag; while the oscillator comes up one more poll is used up. -/
theorem wp_pollHse_asleep (h : Asleep delay osc 0#32 s) :
    (pollSource .cr).wp (clockAlone advance delay) D
      (fun v _ s' => Asleep delay osc 0#32 s' ∧ s'.hseon = s.hseon ∧
        (v &&& rccCrHserdy ≠ 0#32 ∧ s'.hserdy = true ∨
          v &&& rccCrHserdy = 0#32 ∧
            (s.hseon = true → osc = .starts → s'.quiet < s.quiet))) u s := by
  refine wp_clockAccess_asleep h no_clock ?_
  rintro s₁ (v : BitVec 32) s' h₁ ⟨b, hs₁⟩ ⟨⟨-, hshown⟩, hpoll⟩
  have hon : s₁.hseon = s.hseon := by
    rw [hs₁]
  rcases hpoll with ⟨hup, rfl⟩ | ⟨hdown, hleft, rfl⟩
  · refine ⟨h₁, hon, Or.inl ⟨fun hzero => ?_, hup⟩⟩
    have hbit := congrArg (BitVec.getLsbD · 17) hzero
    simp only [rccCrHserdy, BitVec.getLsbD_and, hshown, hup] at hbit
    exact absurd hbit (by decide)
  · have hle : s₁.quiet - 1 ≤ delay := Nat.le_trans (Nat.sub_le _ _) h₁.quiet
    refine ⟨⟨h₁.dbp, h₁.domain, h₁.hse, h₁.key, h₁.init, h₁.initf, h₁.calendar, hle⟩, hon,
      Or.inr ⟨and_one_shiftLeft_eq_zero (hshown.trans hdown), ?_⟩⟩
    rintro hseon rfl
    have hpos := hleft ⟨hon.trans hseon, h₁.hse⟩
    have hsame : s₁.quiet = s.quiet := by
      rw [hs₁]
    show s₁.quiet - 1 < s.quiet
    omega

/-- An oscillator that starts is seen running before the counter is used up.  The counter of one
that never does goes below 0, and that is no failure either. -/
theorem wp_waitSource_asleep {n : Nat} (hn : n < 2 ^ 32) (h : Asleep delay osc 0#32 s) :
    (waitSource .cr rccCrHserdy n).wp (clockAlone advance delay) D
      (fun timeout _ s' => Asleep delay osc 0#32 s' ∧
        (osc = .starts → s.hseon = true → s.quiet < n →
          s'.hserdy = true ∧ timeout ≠ 0#32) ∧
        (osc = .dead → timeout ≠ 0#32)) u s := by
  induction n generalizing s with
  | zero =>
      refine wp_seq (wp_pollHse_asleep h) ?_
      rintro v _ s₁ ⟨h₁, -, ⟨hup, hready⟩ | ⟨hdown, -⟩⟩
      · rw [if_pos hup]
        refine ⟨h₁, fun _ _ hquiet => absurd hquiet (Nat.not_lt_zero _), ?_⟩
        rintro rfl
        exact absurd (h₁.hse.2.symm.trans hready) (by decide)
      · have hwrapped : (0#32 - 1#32 : BitVec 32) ≠ 0#32 := by decide
        rw [if_neg (not_not.2 hdown)]
        exact ⟨h₁, fun _ _ hquiet => absurd hquiet (Nat.not_lt_zero _), fun _ => hwrapped⟩
  | succ n ih =>
      refine wp_seq (wp_pollHse_asleep h) ?_
      rintro v _ s₁ ⟨h₁, hon, ⟨hup, hready⟩ | ⟨hdown, hused⟩⟩
      · have hleft := ofNat_succ_ne_zero hn
        rw [if_pos hup]
        exact ⟨h₁, fun _ _ _ => ⟨hready, hleft⟩, fun _ => hleft⟩
      · rw [if_neg (not_not.2 hdown)]
        refine wp_mono (ih (Nat.lt_of_succ_lt hn) h₁) ?_
        rintro timeout _ s₂ ⟨h₂, hstarts, hdead⟩
        refine ⟨h₂, fun hosc hseon hquiet => ?_, hdead⟩
        have hless := hused hseon hosc
        exact hstarts hosc (hon.trans hseon) (by omega)

theorem Asleep.awaited (h : Asleep delay osc d s) (hup : osc = .starts → s.hserdy = true) :
    Asleep delay osc.awaited d s := by
  refine ⟨h.dbp, h.domain, ?_, h.key, h.init, h.initf, h.calendar, h.quiet⟩
  cases osc with
  | unknown => trivial
  | starts => exact hup rfl
  | runs => exact h.hse
  | dead => exact h.hse

theorem wp_setHseon_asleep (h : Asleep delay osc 0#32 s) :
    (setSource .cr rccCrHseon).wp (clockAlone advance delay) D
      (fun _ _ s' => Asleep delay osc 0#32 s' ∧ s'.hseon = true ∧ s'.quiet = delay) u s := by
  refine wp_bind.2 (wp_clockAccess_asleep h no_clock ?_)
  rintro s₁ (v : BitVec 32) _ h₁ - ⟨-, rfl⟩
  refine wp_clockAccess_asleep h₁ no_clock ?_
  rintro s₂ _ _ h₂ - rfl
  have hon : (v ||| rccCrHseon).getLsbD 16 = true := by
    simp [rccCrHseon]
  have hhse : osc.Holds s₂.crystal (s₂.hserdy && (v ||| rccCrHseon).getLsbD 16) := by
    rw [hon, Bool.and_true]
    exact h₂.hse
  exact ⟨⟨h₂.dbp, h₂.domain, hhse, h₂.key, h₂.init, h₂.initf, h₂.calendar, Nat.le_refl _⟩, hon,
    rfl⟩

theorem wp_awaitHse_device (hdelay : osc = .starts → delay < 100000)
    (h : Asleep delay osc 0#32 s) :
    awaitHse.wp (clockAlone advance delay) D
      (fun status _ s' => Asleep delay osc.awaited 0#32 s' ∧ (osc.Reported → status = 0)) u s := by
  unfold awaitHse
  refine wp_seq (wp_pollHse_asleep h) ?_
  rintro v _ s₁ ⟨h₁, -, ⟨hup, hready⟩ | ⟨hdown, -⟩⟩
  · rw [if_neg hup]
    exact ⟨h₁.awaited fun _ => hready, fun _ => rfl⟩
  · rw [if_pos hdown]
    refine wp_seq (wp_setHseon_asleep h₁) ?_
    rintro _ _ s₂ ⟨h₂, hon, hquiet⟩
    refine wp_seq (wp_waitSource_asleep (by decide) h₂) ?_
    rintro timeout _ s₃ ⟨h₃, hstarts, hdead⟩
    have hseen : osc = .starts → s₃.hserdy = true ∧ timeout ≠ 0#32 :=
      fun hosc => hstarts hosc hon (hquiet ▸ hdelay hosc)
    refine wp_guard (fun hzero => ?_) fun _ => ?_
    · refine ⟨h₃.awaited fun hosc => (hseen hosc).1, ?_⟩
      rintro (hosc | hosc)
      · exact absurd hzero (hseen hosc).2
      · exact absurd hzero (hdead hosc)
    · exact ⟨h₃.awaited fun hosc => (hseen hosc).1, fun _ => rfl⟩

/-- The RTC is off, so its clock is divided. -/
theorem wp_divideHse_device (h : Asleep delay osc 0#32 s) :
    divideHse.wp (clockAlone advance delay) D
      (fun _ _ s' => Asleep delay osc 0#32 s' ∧ s'.rtcpre = rccRtcpreDiv25 <<< 16) u s := by
  unfold divideHse
  refine wp_bind.2 (wp_clockAccess_asleep h no_clock ?_)
  rintro s₁ (v : BitVec 32) _ h₁ - ⟨hv, rfl⟩
  have hin : domainMask &&& rccBdcrRtcen = rccBdcrRtcen := by decide
  have hoff : v &&& rccBdcrRtcen = 0#32 := by
    rw [← hin, ← BitVec.and_assoc, hv, h₁.domain]
    decide
  rw [if_pos hoff]
  refine wp_bind.2 (wp_bind.2 (wp_clockAccess_asleep h₁ no_clock ?_))
  rintro s₂ (v₁ : BitVec 32) _ h₂ - ⟨-, rfl⟩
  refine wp_clockAccess_asleep h₂ no_clock ?_
  rintro s₃ _ _ h₃ - rfl
  have h₃' : Asleep delay osc 0#32
      { s₃ with rtcpre := v₁ &&& ~~~rccCfgrRtcpreMask &&& rccCfgrRtcpreMask } :=
    ⟨h₃.dbp, h₃.domain, h₃.hse, h₃.key, h₃.init, h₃.initf, h₃.calendar, h₃.quiet⟩
  refine wp_bind.2 (wp_clockAccess_asleep h₃' no_clock ?_)
  rintro s₄ (v₂ : BitVec 32) _ h₄ ⟨_, hs₄⟩ ⟨hv₂, rfl⟩
  refine wp_clockAccess_asleep h₄ no_clock ?_
  rintro s₅ _ _ h₅ - rfl
  refine ⟨⟨h₅.dbp, h₅.domain, h₅.hse, h₅.key, h₅.init, h₅.initf, h₅.calendar, h₅.quiet⟩, ?_⟩
  have hcleared : v₂ &&& rccCfgrRtcpreMask = 0#32 := by
    rw [hv₂, hs₄, BitVec.and_assoc, BitVec.and_self, BitVec.and_assoc, BitVec.not_and_self]
    exact BitVec.and_zero
  show (v₂ ||| rccRtcpreDiv25 <<< 16) &&& rccCfgrRtcpreMask = _
  rw [BitVec.and_or_distrib_right, hcleared]
  decide

/-! ### The switch -/

/-- The value of `PRER`: 31 times 32258 cycles of 1 MHz. -/
def hsePrer : BitVec 32 := 30#32 <<< 16 ||| 32257#32

theorem wp_selectSource_device (h : Asleep delay osc 0#32 s)
    (hpre : s.rtcpre = rccRtcpreDiv25 <<< 16) :
    (selectSource rtcSrcHse).wp (clockAlone advance delay) D
      (fun _ _ s' => ∃ prer, CountsLocked advance delay osc prer resetCalendar s') u s := by
  unfold selectSource
  refine wp_seq (wp_clearSource_bdcr h (by decide) no_clock (by decide)) ?_
  rintro _ _ s₁ ⟨h₁, hpre₁⟩
  refine wp_seq (wp_setSource_bdcr h₁ (by decide) (by decide) (by decide)) ?_
  rintro _ _ s₂ ⟨h₂, hpre₂⟩
  refine wp_mono (wp_setSource_bdcr h₂ (by decide) (by decide) (by decide)) ?_
  rintro _ _ s₃ ⟨h₃, hpre₃⟩
  have hdomain : 0#32 &&& ~~~rccBdcrRtcselMask ||| rccBdcrRtcsel rtcSrcHse &&& domainMask |||
      rccBdcrRtcen &&& domainMask = rccBdcrRtcsel rtcSrcHse ||| rccBdcrRtcen := by
    decide
  have hclock : s₃.OnHse :=
    ⟨h₃.domain.trans hdomain, hpre₃.trans (hpre₂.trans (hpre₁.trans hpre))⟩
  have hcalendar : ReflTransGen advance resetCalendar s₃.calendar := by
    rw [h₃.calendar]
  exact ⟨s₃.prer, h₃.dbp, hclock, h₃.hse, h₃.key, rfl, h₃.quiet, h₃.init, h₃.initf, hcalendar⟩

/-- Whatever the device was doing, its clock is the HSE afterwards, or it is off. -/
theorem wp_configureRtcClockRcc_device (hdelay : osc = .starts → delay < 100000)
    (hhse : osc.Holds s.crystal s.hserdy) :
    (configureRtcClockRcc rtcSrcHse).wp (clockAlone advance delay) D
      (fun status _ s' => (osc.Reported → status = 0) ∧
        if status = 0 then ∃ prer, CountsLocked advance delay osc.awaited prer resetCalendar s'
        else Asleep delay osc.awaited 0#32 s') u s := by
  unfold configureRtcClockRcc
  refine wp_seq (wp_resetBackupDomain_device hhse) ?_
  intro _ _ s₁ h₁
  refine wp_seq (P := fun status _ s' => Asleep delay osc.awaited 0#32 s' ∧
    (osc.Reported → status = 0) ∧ (status = 0 → s'.rtcpre = rccRtcpreDiv25 <<< 16)) ?_ ?_
  · have hse : startSource rtcSrcHse = (do
        let status ← awaitHse
        if status ≠ 0 then return status
        divideHse
        return 0) := rfl
    rw [hse]
    refine wp_seq (wp_awaitHse_device hdelay h₁) ?_
    rintro status _ s₂ ⟨h₂, hstatus⟩
    refine wp_guard (fun hfailed => ?_) fun _ => ?_
    · exact ⟨h₂, hstatus, fun hzero => absurd hzero hfailed⟩
    · refine wp_seq (wp_divideHse_device h₂) ?_
      rintro _ _ s₃ ⟨h₃, hpre⟩
      exact ⟨h₃, fun _ => rfl, fun _ => hpre⟩
  · rintro status _ s₂ ⟨h₂, hstatus, hpre⟩
    refine wp_guard (fun hfailed => ?_) fun hzero => ?_
    · rw [if_neg hfailed]
      exact ⟨hstatus, h₂⟩
    · refine wp_seq (wp_selectSource_device h₂ (hpre (not_not.1 hzero))) ?_
      intro _ _ s₃ h₃
      exact ⟨fun _ => rfl, h₃⟩

/-! ### The clock of a device that is set up -/

variable {prer : BitVec 32} {c : CalendarValue}

theorem wp_getRtcClockFreq_device (h : In advance delay osc prer .unlocked .stopped c s) :
    getRtcClockFreq.wp (clockAlone advance delay) D
      (fun f _ s' => f = 1000000#32 ∧ In advance delay osc prer .unlocked .stopped c s') u s := by
  have hselected : ∀ v : BitVec 32, v &&& domainMask = rccBdcrRtcsel rtcSrcHse ||| rccBdcrRtcen →
      v >>> 8 &&& 0x3#32 = rtcSrcHse := by
    intro v hv
    have hin : domainMask &&& 0x300#32 = 0x300#32 := by decide
    have hfield : v &&& 0x300#32 = 0x300#32 := by
      rw [← hin, ← BitVec.and_assoc, hv]
      decide
    have hshift : v >>> 8 &&& 0x3#32 = (v &&& 0x300#32) >>> 8 := by
      rw [BitVec.ushiftRight_and_distrib]
      rfl
    rw [hshift, hfield]
    rfl
  refine wp_bind.2 (wp_perform.2 ⟨fun _ _ => trivial, ?_⟩)
  rintro (v : BitVec 32) s₁ ⟨_, hmoves, hv, rfl⟩
  have h₁ := ((stable_in s.quiet).turns hmoves ⟨h, rfl⟩).1
  rw [h₁.clock.1] at hv
  rw [hselected v hv, if_neg (by decide), if_neg (by decide), if_pos rfl]
  refine wp_bind.2 (wp_perform.2 ⟨fun _ _ => trivial, ?_⟩)
  rintro (w : BitVec 32) s₂ ⟨_, hmoves', hw, rfl⟩
  have h₂ := ((stable_in s₁.quiet).turns hmoves' ⟨h₁, rfl⟩).1
  have hfreq : (w &&& rccCfgrRtcpreMask) >>> 16 = 25#32 := by
    rw [hw, h₂.clock.2]
    rfl
  refine ⟨?_, h₂⟩
  rw [hfreq]
  rfl

/-- What is written to `PRER` for the HSE. -/
theorem wp_rtcGetPrerValue_device (h : In advance delay osc prer .unlocked .stopped c s) :
    rtcGetPrerValue.wp (clockAlone advance delay) D
      (fun v _ s' => v = hsePrer ∧ In advance delay osc prer .unlocked .stopped c s') u s := by
  have hprescalers : calculatePrescalersRtc 1000000#32 = (30#32, 32257#32) := by
    decide +kernel
  unfold rtcGetPrerValue
  refine wp_seq (wp_getRtcClockFreq_device h) ?_
  rintro _ _ s₁ ⟨rfl, h₁⟩
  simp only [hprescalers]
  exact ⟨rfl, h₁⟩

/-- `init_rtc`, as a part of a session. -/
def initAlone (advance : CalendarValue → CalendarValue → Prop) (delay : Nat) :
    Env RtcInitEvent RtcInitEvent.Response RtcDevice where
  req s e := (rtcDevice advance delay).req s (.unit e)
  step s e r s' := (rtcDevice advance delay).step s (.unit e) r s'

theorem wp_onInit {α : Type} {p : RtcInitProc α} {Q : α → RtcGlobals → RtcDevice → Prop}
    (h : p.wp (initAlone advance delay) D Q g s) :
    (onInit p).wp (rtcDevice advance delay) D Q g s := by
  refine wp_embed ?_ ?_ h
  · exact fun _ _ hreq => hreq
  · exact fun _ _ _ _ hstep => hstep

theorem wp_callRtc_device {α : Type} {p : RtcProc α} {Q : α → RtcGlobals → RtcDevice → Prop}
    (h : p.wp (rtcAlone advance delay) D Q g s) :
    (callRtc p).wp (initAlone advance delay) D Q g s := by
  refine wp_embed ?_ ?_ h
  · exact fun _ _ hreq => hreq
  · exact fun _ _ _ _ hstep => hstep

theorem wp_callClock_device {α : Type} {p : ClockSourceProc α} {Q : α → RtcDevice → Prop}
    (h : p.wp (clockAlone advance delay) D (fun a _ s' => Q a s') () s) :
    (callClock p).wp (initAlone advance delay) D (fun a g' s' => g' = g ∧ Q a s') g s := by
  refine wp_aside ?_ ?_ h
  · exact fun _ _ hreq => hreq
  · exact fun _ _ _ _ hstep => hstep

theorem wp_writePrer_device (h : In advance delay osc prer .unlocked .stopped c s) :
    (perform (RtcInitEvent.writePrer v) : RtcInitProc Unit).wp (initAlone advance delay) D
      (fun _ g' s' => g' = g ∧ In advance delay osc v .unlocked .stopped c s') g s := by
  refine wp_perform.2 ⟨fun s₁ hmoves => ?_, ?_⟩
  · exact ((stable_in s.quiet).turns hmoves ⟨h, rfl⟩).1.stopped
  · rintro _ _ ⟨s₁, hmoves, rfl⟩
    have h₁ := ((stable_in s.quiet).turns hmoves ⟨h, rfl⟩).1
    rw [if_pos h₁.effective]
    exact ⟨rfl, h₁.dbp, h₁.clock, h₁.hse, h₁.key, rfl, h₁.quiet, h₁.mode⟩

/-- From any state `init_rtc` loses the calendar; where it succeeds, the calendar counts from its
reset value on. -/
theorem wp_initRtc_device (hdelay : osc = .starts → delay < 100000)
    (hhse : osc.Holds s.crystal s.hserdy) (hwaits : Waits D delay fuel osc.awaited) :
    (initRtc fuel).wp (initAlone advance delay) D
      (fun status g' s' =>
        (status = -1 ∧ ¬osc.Reported ∧ g' = g ∧ Asleep delay osc.awaited 0#32 s') ∨
        (status = 0 ∧ g'.rtcInitialized = 1#32 ∧
          CountsLocked advance delay osc.awaited hsePrer resetCalendar s'))
      g s := by
  unfold initRtc
  refine wp_seq (wp_callClock_device (wp_configureRtcClockRcc_device hdelay hhse)) ?_
  rintro status _ s₁ ⟨rfl, hstatus, h₁⟩
  refine wp_guard (fun hfailed => ?_) fun hzero => ?_
  · rw [if_neg hfailed] at h₁
    exact Or.inl ⟨rfl, fun hreported => hfailed (hstatus hreported), rfl, h₁⟩
  rw [if_pos (not_not.1 hzero)] at h₁
  obtain ⟨prer, h₁⟩ := h₁
  refine wp_seq (wp_callRtc_device (wp_enterInit_device hwaits h₁)) ?_
  rintro _ _ s₂ ⟨rfl, c₁, hcounted, h₂⟩
  refine wp_seq (wp_callClock_device (wp_rtcGetPrerValue_device h₂)) ?_
  rintro _ _ s₃ ⟨rfl, rfl, h₃⟩
  refine wp_seq (wp_writePrer_device h₃) ?_
  rintro _ _ s₄ ⟨rfl, h₄⟩
  refine wp_seq (P := fun _ g' s' => g'.rtcInitialized = 1#32 ∧
    CountsLocked advance delay osc.awaited hsePrer c₁ s') (wp_callRtc_device ?_) ?_
  · refine wp_seq (wp_clearIsr_init h₄) ?_
    rintro _ _ s₅ ⟨rfl, h₅⟩
    refine wp_seq (wp_clearIsr_rsf h₅) ?_
    rintro _ _ s₆ ⟨rfl, h₆⟩
    refine wp_seq (wp_waitIsr_rsf hwaits h₆) ?_
    rintro _ _ s₇ ⟨rfl, h₇⟩
    refine wp_seq (wp_rtcWaitSync_device hwaits h₇) ?_
    rintro _ _ s₈ ⟨rfl, h₈⟩
    refine wp_seq (wp_writeWpr_device h₈) ?_
    rintro _ _ s₉ ⟨rfl, h₉⟩
    exact ⟨rfl, h₉⟩
  · rintro _ g' s₅ ⟨hinit, h₅⟩
    exact Or.inr ⟨rfl, hinit, h₅.since hcounted⟩

/-! ### Without an oscillator -/

/-- The HSE is selected, and never runs. -/
def Lifeless (s : RtcDevice) : Prop :=
  s.OnHse ∧ HseFact.dead.Holds s.crystal s.hserdy ∧ s.initf = false

theorem Lifeless.not_clocked (h : Lifeless s) : ¬s.Clocked := by
  rw [h.1.clocked_iff, h.2.1.2]
  exact Bool.false_ne_true

theorem lifeless_neverStops : NeverStops advance delay Lifeless where
  moves s s' hmove h := by
    cases hmove with
    | second hclocked => exact absurd hclocked h.not_clocked
    | stop hclocked => exact absurd hclocked h.not_clocked
    | start hstarting => exact absurd (h.2.1.1.symm.trans hstarting.2) (by decide)
  initf _ h := h.2.2
  writeWpr s v h := by
    unfold RtcDevice.writeWpr
    split
    · exact h
    · exact h
  writeIsr s v h := by
    unfold RtcDevice.writeIsr
    split
    · refine ⟨h.1, h.2.1, ?_⟩
      show (s.initf && _) = false
      rw [h.2.2, Bool.false_and]
    · exact h
  waits _ _ h := h

/-- The missing clock is not reported, and the wait for the initialisation mode does not end. -/
theorem wp_initRtc_lifeless (hhse : HseFact.dead.Holds s.crystal s.hserdy) :
    (initRtc fuel).wp (initAlone advance delay) (fun _ => True) (fun _ _ _ => False) g s := by
  have hdelay : HseFact.dead = .starts → delay < 100000 := fun hstarts => nomatch hstarts
  unfold initRtc
  refine wp_seq (wp_callClock_device (wp_configureRtcClockRcc_device hdelay hhse)) ?_
  rintro status _ s₁ ⟨rfl, hstatus, h₁⟩
  have hzero : status = 0 := hstatus (Or.inr rfl)
  subst hzero
  rw [if_pos rfl] at h₁
  obtain ⟨prer, h₁⟩ := h₁
  have hlifeless : Lifeless s₁ := ⟨h₁.clock, h₁.hse, h₁.mode.2.1⟩
  rw [if_neg (not_not.2 rfl)]
  refine wp_seq (wp_callRtc_device (lifeless_neverStops.wp_enterInit hlifeless)) ?_
  exact fun _ _ _ hreturned => hreturned.elim

end Init

end Core
end SdioFat32
