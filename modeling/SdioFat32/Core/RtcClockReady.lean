import Mathlib.Logic.Function.Basic
import SdioFat32.Core.RtcClock

/-!
# RtcClockReady — what `configure_rtc_clock_rcc` reports of the oscillator

The ready flag becomes set after some number of tests, or never.  The loop leaves 0 in `timeout`
exactly if the flag is seen set by its last test, and the largest number if it is never seen set;
only 0 counts as a failure.

* `waitVerdict`: the status a wait comes to;
* `Truthful`: the status says whether the flag was seen, and the registers agree;
* `DeadClockRefused`: `init_rtc` does not wait on a clock that was not seen running.
-/

namespace SdioFat32
namespace Core

open Effects Proc

/-! ## Oscillators -/

inductive Oscillator where
  | lse
  | lsi
  | hse
  deriving DecidableEq

def Oscillator.rtcsel : Oscillator → BitVec 32
  | .lse => rtcSrcLse
  | .lsi => rtcSrcLsi
  | .hse => rtcSrcHse

/-- The register with the ready flag. -/
def Oscillator.reg : Oscillator → ClockSourceReg
  | .lse => .bdcr
  | .lsi => .csr
  | .hse => .cr

def Oscillator.flag : Oscillator → BitVec 32
  | .lse => rccBdcrLserdy
  | .lsi => rccCsrLsirdy
  | .hse => rccCrHserdy

/-- The last test of the flag, counted from 0; the HSE is tested once before the loop. -/
def Oscillator.lastPoll : Oscillator → Nat
  | .lse => 100000
  | .lsi => 100000
  | .hse => 100001

/-! ## The environment -/

structure ClockSourceState where
  regs : ClockSourceReg → BitVec 32
  /-- The tests made. -/
  polls : Nat
  /-- The ready flag was seen set by one of them. -/
  observed : Bool
  /-- `INITF` was waited for. -/
  waited : Bool

def ClockSourceState.start (regs : ClockSourceReg → BitVec 32) : ClockSourceState :=
  { regs := regs
    polls := 0
    observed := false
    waited := false }

/-- The flag after so many tests, where it becomes set after `ready` of them. -/
def flagSet (ready : Option Nat) (polls : Nat) : Bool := ready.any fun k => decide (k ≤ polls)

def ClockSourceState.shown (s : ClockSourceState) (osc : Oscillator) (ready : Option Nat)
    (r : ClockSourceReg) : BitVec 32 :=
  if r = osc.reg then
    s.regs r &&& ~~~osc.flag ||| (if flagSet ready s.polls then osc.flag else 0#32)
  else s.regs r

/-- While the backup domain is reset the other bits of `BDCR` are 0. -/
def ClockSourceState.write (s : ClockSourceState) (r : ClockSourceReg) (v : BitVec 32) :
    ClockSourceState :=
  let stored := if r = .bdcr ∧ v &&& rccBdcrBdrst ≠ 0#32 then rccBdcrBdrst else v
  { s with regs := Function.update s.regs r stored }

def ClockSourceState.polled (s : ClockSourceState) (osc : Oscillator) (ready : Option Nat)
    (r : ClockSourceReg) : ClockSourceState :=
  { s with
    polls := s.polls + 1
    observed := s.observed || decide (r = osc.reg) && flagSet ready s.polls }

def clockSource (osc : Oscillator) (ready : Option Nat) :
    Env ClockSourceEvent ClockSourceEvent.Response ClockSourceState where
  step s e r s' :=
    match e, r with
    | .read reg, (v : BitVec 32) => v = s.shown osc ready reg ∧ s' = s
    | .poll reg, (v : BitVec 32) => v = s.shown osc ready reg ∧ s' = s.polled osc ready reg
    | .write reg v, _ => s' = s.write reg v

variable {osc : Oscillator} {ready : Option Nat} {D : ClockSourceState → Prop}
  {s : ClockSourceState} {r : ClockSourceReg} {g : Unit}

theorem flagSet_mono {i j : Nat} (hle : i ≤ j) (hset : flagSet ready i = true) :
    flagSet ready j = true := by
  cases ready with
  | none => cases hset
  | some k =>
      have hk : k ≤ i := of_decide_eq_true hset
      exact decide_eq_true (Nat.le_trans hk hle)

theorem shown_and_flag :
    s.shown osc ready osc.reg &&& osc.flag =
      if flagSet ready s.polls then osc.flag else 0#32 := by
  unfold ClockSourceState.shown
  rw [if_pos rfl]
  split
  · ext i
    simp only [BitVec.getElem_and, BitVec.getElem_or, BitVec.getElem_not]
    cases osc.flag[i] <;> simp
  · ext i
    simp

theorem Oscillator.flag_ne_zero : osc.flag ≠ 0#32 := by
  cases osc <;> decide

/-! ## Rules for one access -/

@[simp] theorem wp_readSource {Q : BitVec 32 → Unit → ClockSourceState → Prop} :
    (readSource r).wp (clockSource osc ready) D Q g s ↔ Q (s.shown osc ready r) g s :=
  wp_perform_answered trivial fun _ _ => Iff.rfl

@[simp] theorem wp_pollSource {Q : BitVec 32 → Unit → ClockSourceState → Prop} :
    (pollSource r).wp (clockSource osc ready) D Q g s ↔
      Q (s.shown osc ready r) g (s.polled osc ready r) :=
  wp_perform_answered trivial fun _ _ => Iff.rfl

@[simp] theorem wp_writeSource {v : BitVec 32} {Q : Unit → Unit → ClockSourceState → Prop} :
    (writeSource r v).wp (clockSource osc ready) D Q g s ↔ Q () g (s.write r v) :=
  wp_perform_answered trivial fun _ _ => ⟨fun h => ⟨rfl, h⟩, fun h => h.2⟩

@[simp] theorem wp_setSource {mask : BitVec 32} {Q : Unit → Unit → ClockSourceState → Prop} :
    (setSource r mask).wp (clockSource osc ready) D Q g s ↔
      Q () g (s.write r (s.shown osc ready r ||| mask)) := by
  unfold setSource
  rw [wp_bind, wp_readSource, wp_writeSource]

@[simp] theorem wp_clearSource {mask : BitVec 32} {Q : Unit → Unit → ClockSourceState → Prop} :
    (clearSource r mask).wp (clockSource osc ready) D Q g s ↔
      Q () g (s.write r (s.shown osc ready r &&& ~~~mask)) := by
  unfold clearSource
  rw [wp_bind, wp_readSource, wp_writeSource]

/-! ## The waits -/

/-- The status of a wait whose last test is `last`: it fails if that test is the first one that
sees the flag. -/
def waitVerdict (ready : Option Nat) (last : Nat) : Int :=
  if flagSet ready last && !flagSet ready (last - 1) then -1 else 0

/-- Only the tests of the flag have left a trace. -/
structure Polled (s s' : ClockSourceState) : Prop where
  regs : s'.regs = s.regs
  waited : s'.waited = s.waited

theorem ClockSourceState.polled_observed (hclear : s.observed = false) :
    (s.polled osc ready osc.reg).observed = flagSet ready s.polls := by
  simp [ClockSourceState.polled, hclear]

/-- One test of the flag. -/
theorem wp_testSource {α : Type} {p q : ClockSourceProc α} {Q : α → Unit → ClockSourceState → Prop}
    (hclear : s.observed = false)
    (hset : flagSet ready s.polls = true → (s.polled osc ready osc.reg).observed = true →
      p.wp (clockSource osc ready) D Q g (s.polled osc ready osc.reg))
    (hnot : flagSet ready s.polls = false → (s.polled osc ready osc.reg).observed = false →
      q.wp (clockSource osc ready) D Q g (s.polled osc ready osc.reg)) :
    (pollSource osc.reg >>= fun v => if v &&& osc.flag ≠ 0#32 then p else q).wp
      (clockSource osc ready) D Q g s := by
  have hobserved : (s.polled osc ready osc.reg).observed = flagSet ready s.polls :=
    ClockSourceState.polled_observed hclear
  refine wp_bind.2 (wp_pollSource.2 ?_)
  rw [shown_and_flag]
  by_cases hflag : flagSet ready s.polls = true
  · rw [if_pos hflag, if_pos Oscillator.flag_ne_zero]
    exact hset hflag (hobserved.trans hflag)
  · have hoff : flagSet ready s.polls = false := Bool.eq_false_iff.2 hflag
    rw [if_neg hflag, if_neg (not_not.2 rfl)]
    exact hnot hoff (hobserved.trans hoff)

/-- Something is left of a counter that has not reached 0. -/
theorem ofNat_succ_ne_zero {n : Nat} (hn : n + 1 < 2 ^ 32) : BitVec.ofNat 32 (n + 1) ≠ 0#32 := by
  intro hzero
  have hnat := congrArg BitVec.toNat hzero
  rw [BitVec.toNat_ofNat, Nat.mod_eq_of_lt hn] at hnat
  exact absurd hnat (Nat.succ_ne_zero n)

theorem wp_waitSource {n : Nat} (hn : n < 2 ^ 32) (hclear : s.observed = false) :
    (waitSource osc.reg osc.flag n).wp (clockSource osc ready) D
      (fun timeout _ s' => Polled s s' ∧ s'.observed = flagSet ready (s.polls + n) ∧
        (timeout = 0#32 ↔ flagSet ready (s.polls + n) = true ∧
          ∀ i, i < n → flagSet ready (s.polls + i) = false)) g s := by
  induction n generalizing s with
  | zero =>
      apply wp_testSource hclear
      · intro hset hseen
        refine ⟨⟨rfl, rfl⟩, hseen.trans hset.symm, ?_⟩
        exact ⟨fun _ => ⟨hset, fun i hi => absurd hi (Nat.not_lt_zero i)⟩, fun _ => rfl⟩
      · -- The counter wraps around, and the caller takes that for success.
        intro hnot hunseen
        have hwrapped : (0#32 - 1#32 : BitVec 32) ≠ 0#32 := by decide
        refine ⟨⟨rfl, rfl⟩, hunseen.trans hnot.symm, ?_⟩
        exact ⟨fun hzero => absurd hzero hwrapped,
          fun hset => absurd (hnot.symm.trans hset.1) Bool.false_ne_true⟩
  | succ n ih =>
      apply wp_testSource hclear
      · intro hset hseen
        have hlater : flagSet ready (s.polls + (n + 1)) = true :=
          flagSet_mono (Nat.le_add_right _ _) hset
        refine ⟨⟨rfl, rfl⟩, hseen.trans hlater.symm, ?_⟩
        constructor
        · intro hzero
          exact absurd hzero (ofNat_succ_ne_zero hn)
        · rintro ⟨_, hbefore⟩
          exact absurd hset (Bool.eq_false_iff.1 (hbefore 0 (Nat.succ_pos n)))
      · intro hnot hunseen
        refine wp_mono (ih (Nat.lt_of_succ_lt hn) hunseen) ?_
        rintro timeout _ s' ⟨⟨hregs, hwaited⟩, hseen, hzero⟩
        -- The rest of the loop starts one test later.
        have hshift : ∀ i, (s.polled osc ready osc.reg).polls + i = s.polls + (i + 1) := by
          intro i
          exact Nat.add_right_comm s.polls 1 i
        simp only [hshift] at hseen hzero
        refine ⟨⟨hregs, hwaited⟩, hseen, hzero.trans (and_congr_right fun _ => ?_)⟩
        constructor
        · intro hbefore i hi
          cases i with
          | zero => exact hnot
          | succ i => exact hbefore i (Nat.lt_of_succ_lt_succ hi)
        · intro hbefore i hi
          exact hbefore (i + 1) (Nat.succ_lt_succ hi)

/-- The tests before the last one see the flag clear if the one before it does. -/
theorem flagSet_before_last {first n : Nat} :
    (∀ i, i < n + 1 → flagSet ready (first + i) = false) ↔ flagSet ready (first + n) = false := by
  constructor
  · intro hbefore
    exact hbefore n (Nat.lt_succ_self n)
  · intro hlast i hi
    apply Bool.eq_false_iff.2
    intro hset
    have hle : first + i ≤ first + n := Nat.add_le_add_left (Nat.le_of_lt_succ hi) first
    exact Bool.eq_false_iff.1 hlast (flagSet_mono hle hset)

theorem wp_awaitSource (hclear : s.observed = false) :
    (awaitSource osc.reg osc.flag).wp (clockSource osc ready) D
      (fun status _ s' => Polled s s' ∧ s'.observed = flagSet ready (s.polls + 100000) ∧
        status = waitVerdict ready (s.polls + 100000)) g s := by
  refine wp_seq (wp_waitSource (by decide) hclear) ?_
  rintro timeout _ s' ⟨hpolled, hobserved, hzero⟩
  rw [flagSet_before_last] at hzero
  have hlast : s.polls + 100000 - 1 = s.polls + 99999 := by omega
  unfold waitVerdict
  rw [hlast]
  -- The caller takes 0 for a failure, and only 0.
  by_cases hleft : timeout = 0#32
  · rcases hzero.1 hleft with ⟨hset, hbefore⟩
    rw [if_pos hleft, hset, hbefore]
    exact ⟨hpolled, hobserved.trans hset, rfl⟩
  · have hnot : ¬(flagSet ready (s.polls + 100000) && !flagSet ready (s.polls + 99999)) = true := by
      intro hboth
      rcases (Bool.and_eq_true _ _).mp hboth with ⟨hset, hbefore⟩
      exact hleft (hzero.2 ⟨hset, Bool.not_eq_true' _ ▸ hbefore⟩)
    rw [if_neg hleft, if_neg hnot]
    exact ⟨hpolled, hobserved, rfl⟩

/-! ## The backup domain -/

/-- The bits of `BDCR` that select and enable the clock or reset the domain. -/
def domainMask : BitVec 32 := rccBdcrBdrst ||| rccBdcrRtcselMask ||| rccBdcrRtcen

def ClockSourceState.domain (s : ClockSourceState) : BitVec 32 := s.regs .bdcr &&& domainMask

/-- These bits after a write. -/
def domainWritten (d : BitVec 32) : BitVec 32 :=
  if d &&& rccBdcrBdrst ≠ 0#32 then rccBdcrBdrst else d

theorem shown_domain : s.shown osc ready .bdcr &&& domainMask = s.domain := by
  have hoverlay : ∀ y : BitVec 32, y &&& domainMask = 0#32 →
      (s.regs .bdcr &&& ~~~rccBdcrLserdy ||| y) &&& domainMask = s.domain := by
    intro y hy
    have hkeeps : ~~~rccBdcrLserdy &&& domainMask = domainMask := by decide
    rw [BitVec.and_or_distrib_right, hy, BitVec.or_zero, BitVec.and_assoc, hkeeps]
    rfl
  -- Only the flag of the LSE is in `BDCR`, and it is outside of the mask.
  cases osc with
  | lse =>
      have hreg : ClockSourceReg.bdcr = Oscillator.lse.reg := rfl
      unfold ClockSourceState.shown
      rw [if_pos hreg]
      apply hoverlay
      split <;> decide
  | lsi => rfl
  | hse => rfl

theorem write_domain {v : BitVec 32} :
    (s.write .bdcr v).domain = domainWritten (v &&& domainMask) := by
  have hin : domainMask &&& rccBdcrBdrst = rccBdcrBdrst := by decide
  unfold domainWritten
  rw [BitVec.and_assoc, hin]
  unfold ClockSourceState.domain ClockSourceState.write
  simp only [Function.update_self, true_and]
  split
  · decide
  · rfl

theorem write_domain_other {v : BitVec 32} (hr : r ≠ .bdcr) : (s.write r v).domain = s.domain := by
  have hkept : (s.write r v).regs .bdcr = s.regs .bdcr := Function.update_of_ne hr.symm _ _
  unfold ClockSourceState.domain
  rw [hkept]

theorem set_domain {mask : BitVec 32} :
    (s.write .bdcr (s.shown osc ready .bdcr ||| mask)).domain =
      domainWritten (s.domain ||| mask &&& domainMask) := by
  rw [write_domain, BitVec.and_or_distrib_right, shown_domain]

theorem clear_domain {mask : BitVec 32} :
    (s.write .bdcr (s.shown osc ready .bdcr &&& ~~~mask)).domain =
      domainWritten (s.domain &&& ~~~mask) := by
  rw [write_domain, BitVec.and_assoc, BitVec.and_comm (~~~mask), ← BitVec.and_assoc, shown_domain]

/-- No test was made, and nothing was waited for. -/
structure Unpolled (s s' : ClockSourceState) : Prop where
  polls : s'.polls = s.polls
  observed : s'.observed = s.observed
  waited : s'.waited = s.waited

theorem wp_resetBackupDomain :
    resetBackupDomain.wp (clockSource osc ready) D
      (fun _ _ s' => Unpolled s s' ∧ s'.domain = 0#32) g s := by
  refine wp_bind.2 (wp_setSource.2 (wp_bind.2 (wp_setSource.2 (wp_clearSource.2 ?_))))
  refine ⟨⟨rfl, rfl, rfl⟩, ?_⟩
  -- Whatever was set before, the other bits are cleared by the first write.
  have hreset : ∀ d : BitVec 32,
      domainWritten (d ||| rccBdcrBdrst &&& domainMask) = rccBdcrBdrst := by
    intro d
    have hin : rccBdcrBdrst &&& domainMask = rccBdcrBdrst := by decide
    have hset : (d ||| rccBdcrBdrst) &&& rccBdcrBdrst = rccBdcrBdrst := by
      ext i
      simp only [BitVec.getElem_and, BitVec.getElem_or]
      cases rccBdcrBdrst[i] <;> simp
    unfold domainWritten
    rw [hin, hset, if_pos (by decide)]
  rw [clear_domain, set_domain, hreset]
  decide

theorem wp_selectSource (hdomain : s.domain = 0#32) :
    (selectSource osc.rtcsel).wp (clockSource osc ready) D
      (fun _ _ s' => Unpolled s s' ∧ s'.domain = rccBdcrRtcsel osc.rtcsel ||| rccBdcrRtcen)
      g s := by
  refine wp_bind.2 (wp_clearSource.2 (wp_bind.2 (wp_setSource.2 (wp_setSource.2 ?_))))
  refine ⟨⟨rfl, rfl, rfl⟩, ?_⟩
  rw [set_domain, set_domain, clear_domain, hdomain]
  cases osc <;> decide

/-! ## The report -/

/-- The waiting is over, and the backup domain as before. -/
structure Awaited (osc : Oscillator) (ready : Option Nat) (s : ClockSourceState) (status : Int)
    (s' : ClockSourceState) : Prop where
  verdict : status = waitVerdict ready osc.lastPoll
  observed : s'.observed = flagSet ready osc.lastPoll
  domain : s'.domain = s.domain
  waited : s'.waited = s.waited

theorem waitVerdict_of_flagSet {last : Nat} (hset : flagSet ready (last - 1) = true) :
    waitVerdict ready last = 0 := by
  unfold waitVerdict
  rw [hset, Bool.not_true, Bool.and_false]
  rfl

/-- The loop, from a state in which as many tests were made as there are before it. -/
theorem wp_awaitSource_last (osc : Oscillator) {s₁ : ClockSourceState}
    (hclear : s₁.observed = false) (hpolls : s₁.polls + 100000 = osc.lastPoll)
    (hdomain : s₁.domain = s.domain) (hwaited : s₁.waited = s.waited) :
    (awaitSource osc.reg osc.flag).wp (clockSource osc ready) D
      (fun status _ s' => Awaited osc ready s status s') g s₁ := by
  refine wp_mono (wp_awaitSource hclear) ?_
  rintro status _ s' ⟨hpolled, hobserved, hstatus⟩
  rw [hpolls] at hobserved hstatus
  have hsame : s'.domain = s₁.domain := by
    unfold ClockSourceState.domain
    rw [hpolled.regs]
  exact ⟨hstatus, hobserved, hsame.trans hdomain, hpolled.waited.trans hwaited⟩

theorem wp_awaitHse (hfirst : s.polls = 0) (hclear : s.observed = false) :
    awaitHse.wp (clockSource .hse ready) D
      (fun status _ s' => Awaited .hse ready s status s') g s := by
  refine wp_bind.2 (wp_pollSource.2 ?_)
  have hflag : s.shown .hse ready .cr &&& rccCrHserdy =
      if flagSet ready s.polls then rccCrHserdy else 0#32 := shown_and_flag
  have hseen : (s.polled .hse ready .cr).observed = flagSet ready s.polls :=
    ClockSourceState.polled_observed hclear
  rw [hflag, hfirst]
  rw [hfirst] at hseen
  -- The HSE may be running already; then there is no loop.
  by_cases hset : flagSet ready 0 = true
  · have hlater : ∀ n, flagSet ready n = true := fun n => flagSet_mono (Nat.zero_le n) hset
    rw [if_pos hset, if_neg (by decide)]
    refine ⟨?_, ?_, rfl, rfl⟩
    · exact (waitVerdict_of_flagSet (hlater _)).symm
    · rw [hseen, hset, hlater]
  · rw [if_neg hset, if_pos rfl]
    refine wp_bind.2 (wp_setSource.2 (wp_awaitSource_last .hse ?_ ?_ ?_ rfl))
    · exact hseen.trans (Bool.eq_false_iff.2 hset)
    · -- The test before the loop is the first one.
      have hpolls : s.polls + 1 + 100000 = 100001 := by rw [hfirst]
      exact hpolls
    · exact write_domain_other (by decide)

theorem wp_divideHse :
    divideHse.wp (clockSource osc ready) D
      (fun _ _ s' => Unpolled s s' ∧ s'.domain = s.domain) g s := by
  refine wp_bind.2 (wp_readSource.2 ?_)
  split
  · refine wp_bind.2 (wp_clearSource.2 (wp_setSource.2 ⟨⟨rfl, rfl, rfl⟩, ?_⟩))
    rw [write_domain_other (by decide), write_domain_other (by decide)]
  · exact ⟨⟨rfl, rfl, rfl⟩, rfl⟩

theorem wp_startSource (hfirst : s.polls = 0) (hclear : s.observed = false) :
    (startSource osc.rtcsel).wp (clockSource osc ready) D
      (fun status _ s' => Awaited osc ready s status s') g s := by
  have hloop : s.polls + 100000 = 100000 := by rw [hfirst]
  cases osc with
  | lse => exact wp_awaitSource_last .lse hclear hloop rfl rfl
  | lsi =>
      refine wp_bind.2 (wp_setSource.2 (wp_awaitSource_last .lsi hclear hloop ?_ rfl))
      exact write_domain_other (by decide)
  | hse =>
      refine wp_seq (wp_awaitHse hfirst hclear) ?_
      rintro status _ s₁ hawaited
      refine wp_guard (fun _ => hawaited) fun hok => ?_
      refine wp_seq wp_divideHse ?_
      rintro _ _ s₂ ⟨hsame, hdomain⟩
      exact
        { verdict := (not_not.1 hok).symm.trans hawaited.verdict
          observed := hsame.observed.trans hawaited.observed
          domain := hdomain.trans hawaited.domain
          waited := hsame.waited.trans hawaited.waited }

/-- `RTCSEL` -/
def ClockSourceState.rtcsel (s : ClockSourceState) : BitVec 32 :=
  (s.regs .bdcr &&& rccBdcrRtcselMask) >>> 8

/-- `RTCEN` -/
def ClockSourceState.rtcen (s : ClockSourceState) : Bool := s.regs .bdcr &&& rccBdcrRtcen != 0#32

theorem rtcsel_eq : s.rtcsel = (s.domain &&& rccBdcrRtcselMask) >>> 8 := by
  have hin : domainMask &&& rccBdcrRtcselMask = rccBdcrRtcselMask := by decide
  unfold ClockSourceState.rtcsel ClockSourceState.domain
  rw [BitVec.and_assoc, hin]

theorem rtcen_eq : s.rtcen = (s.domain &&& rccBdcrRtcen != 0#32) := by
  have hin : domainMask &&& rccBdcrRtcen = rccBdcrRtcen := by decide
  unfold ClockSourceState.rtcen ClockSourceState.domain
  rw [BitVec.and_assoc, hin]

/-- Success with the clock selected and enabled, and failure with both fields as the reset leaves
them. -/
structure SourceConfigured (osc : Oscillator) (ready : Option Nat) (status : Int)
    (s' : ClockSourceState) : Prop where
  verdict : status = waitVerdict ready osc.lastPoll
  observed : s'.observed = flagSet ready osc.lastPoll
  selected : status = 0 → s'.rtcsel = osc.rtcsel ∧ s'.rtcen = true
  unselected : status ≠ 0 → s'.rtcsel = 0#32 ∧ s'.rtcen = false

theorem wp_configureRtcClockRcc (osc : Oscillator) (hfirst : s.polls = 0)
    (hclear : s.observed = false) :
    (configureRtcClockRcc osc.rtcsel).wp (clockSource osc ready) D
      (fun status _ s' => SourceConfigured osc ready status s' ∧ s'.waited = s.waited) g s := by
  refine wp_seq wp_resetBackupDomain ?_
  rintro _ _ s₁ ⟨hreset, hzero⟩
  have hfirst' : s₁.polls = 0 := hreset.polls.trans hfirst
  have hclear' : s₁.observed = false := hreset.observed.trans hclear
  refine wp_seq (wp_startSource hfirst' hclear') ?_
  rintro status _ s₂ hawaited
  have hdomain : s₂.domain = 0#32 := hawaited.domain.trans hzero
  have hwaited : s₂.waited = s.waited := hawaited.waited.trans hreset.waited
  refine wp_guard (fun hfailed => ?_) fun hok => ?_
  · -- `BDCR` is as the reset has left it.
    have hreset₂ : s₂.rtcsel = 0#32 ∧ s₂.rtcen = false := by
      rw [rtcsel_eq, rtcen_eq, hdomain]
      decide
    exact ⟨⟨hawaited.verdict, hawaited.observed, fun h => absurd h hfailed, fun _ => hreset₂⟩,
      hwaited⟩
  · refine wp_seq (wp_selectSource hdomain) ?_
    rintro _ _ s₃ ⟨hsame, hselect⟩
    have hselected : s₃.rtcsel = osc.rtcsel ∧ s₃.rtcen = true := by
      rw [rtcsel_eq, rtcen_eq, hselect]
      cases osc <;> decide
    refine ⟨⟨?_, ?_, fun _ => hselected, fun h => absurd rfl h⟩, hsame.waited.trans hwaited⟩
    · exact (not_not.1 hok).symm.trans hawaited.verdict
    · exact hsame.observed.trans hawaited.observed

/-- Success was reported of an oscillator that was seen running, or failure of one that was not. -/
def Truthful (osc : Oscillator) (status : Int) (s' : ClockSourceState) : Prop :=
  (status = 0 ∧ s'.rtcsel = osc.rtcsel ∧ s'.rtcen = true ∧ s'.observed = true) ∨
    (status = -1 ∧ s'.rtcsel = 0#32 ∧ s'.rtcen = false ∧ s'.observed = false)

/-- The flag becomes set before the last test. -/
def Oscillator.InTime (osc : Oscillator) (ready : Option Nat) : Prop :=
  ∃ k ∈ ready, k < osc.lastPoll

theorem inTime_iff : osc.InTime ready ↔ flagSet ready (osc.lastPoll - 1) = true := by
  have hpos : 0 < osc.lastPoll := by cases osc <;> decide
  cases ready with
  | none =>
      constructor
      · rintro ⟨k, hk, _⟩
        cases hk
      · intro hset
        cases hset
  | some n =>
      have hpred : n ≤ osc.lastPoll - 1 ↔ n < osc.lastPoll := Nat.le_sub_one_iff_lt hpos
      constructor
      · rintro ⟨k, hk, hlt⟩
        cases hk
        exact decide_eq_true (hpred.2 hlt)
      · intro hset
        exact ⟨n, rfl, hpred.1 (of_decide_eq_true hset)⟩

theorem SourceConfigured.truthful_iff {status : Int} {s' : ClockSourceState}
    (h : SourceConfigured osc ready status s') : Truthful osc status s' ↔ osc.InTime ready := by
  rw [inTime_iff]
  have hverdict := h.verdict
  have hobserved := h.observed
  by_cases hbefore : flagSet ready (osc.lastPoll - 1) = true
  · have hlast : flagSet ready osc.lastPoll = true := flagSet_mono (Nat.sub_le _ _) hbefore
    rw [waitVerdict_of_flagSet hbefore] at hverdict
    rcases h.selected hverdict with ⟨hsel, hen⟩
    exact ⟨fun _ => hbefore, fun _ => Or.inl ⟨hverdict, hsel, hen, hobserved.trans hlast⟩⟩
  · refine ⟨fun htruthful => ?_, fun hset => absurd hset hbefore⟩
    unfold waitVerdict at hverdict
    unfold Truthful at htruthful
    rw [Bool.eq_false_iff.2 hbefore, Bool.not_false, Bool.and_true] at hverdict
    rw [hverdict, hobserved] at htruthful
    rcases htruthful with ⟨hzero, _, _, hseen⟩ | ⟨hfailed, _, _, hunseen⟩
    · -- The flag was seen by the last test, which is then a failure.
      rw [if_pos hseen] at hzero
      exact absurd hzero (by decide)
    · rw [hunseen] at hfailed
      exact absurd hfailed (by decide)

/-! ## `init_rtc` -/

/-- `INITF` is waited for only after the flag of the oscillator was seen. -/
def SeenFirst (s : ClockSourceState) : Prop := s.waited = true → s.observed = true

/-- The RTC on the HSE.  The flags of the RTC stay clear if its clock never runs. -/
def rtcBoard (ready : Option Nat) :
    Env RtcInitEvent RtcInitEvent.Response ClockSourceState where
  req s _ := SeenFirst s
  step s e r s' :=
    match e, r with
    | .clock e, r => (clockSource .hse ready).step s e r s'
    | .rtc (.poll flag), (v : BitVec 32) =>
        (ready = none → v &&& flag = 0#32) ∧
          s' = { s with waited := s.waited || decide (flag = rtcIsrInitf) }
    | .rtc _, _ => s' = s
    | .writePrer _, _ => s' = s

/-- `init_rtc` does not wait for `INITF` before the flag was seen, and gives up a clock that never
runs. -/
def DeadClockRefused (ready : Option Nat) (regs : ClockSourceReg → BitVec 32) (fuel : Nat)
    (g : RtcGlobals) : Prop :=
  (∀ q s', Reaches (rtcBoard ready) (initRtc fuel g) (.start regs) q s' → SeenFirst s') ∧
    (ready = none →
      ∃ g' s', Runs (rtcBoard ready) (initRtc fuel g) (.start regs) (-1, g') s')

/-- The clock, as it is used by `init_rtc`. -/
def rtcBoardClock (ready : Option Nat) :
    Env ClockSourceEvent ClockSourceEvent.Response ClockSourceState :=
  { clockSource .hse ready with req := fun s _ => SeenFirst s }

theorem clockSource_keeps {e : ClockSourceEvent} {v : e.Response} {s' : ClockSourceState}
    (hstep : (clockSource osc ready).step s e v s') :
    s'.waited = s.waited ∧ (s.observed = true → s'.observed = true) := by
  cases e with
  | read reg =>
      rw [hstep.2]
      exact ⟨rfl, id⟩
  | poll reg =>
      rw [hstep.2]
      refine ⟨rfl, fun hseen => ?_⟩
      unfold ClockSourceState.polled
      rw [hseen, Bool.true_or]
  | write reg w =>
      have hwrite : s' = s.write reg w := hstep
      rw [hwrite]
      exact ⟨rfl, id⟩

theorem rtcBoard_keeps {e : RtcInitEvent} {v : e.Response} {s' : ClockSourceState}
    (hstep : (rtcBoard ready).step s e v s') (hseen : s.observed = true) :
    s'.observed = true := by
  cases e with
  | clock e => exact (clockSource_keeps hstep).2 hseen
  | writePrer w =>
      have hsame : s' = s := hstep
      rw [hsame, hseen]
  | rtc e =>
      cases e with
      | poll flag =>
          rw [hstep.2]
          exact hseen
      | read reg =>
          have hsame : s' = s := hstep
          rw [hsame, hseen]
      | write reg w =>
          have hsame : s' = s := hstep
          rw [hsame, hseen]

/-- Where the flag is seen before the last test, nothing is waited for before. -/
theorem wp_initRtc_inTime {fuel : Nat} {g : RtcGlobals} (hfirst : s.polls = 0)
    (hclear : s.observed = false) (hidle : s.waited = false) (htime : Oscillator.hse.InTime ready) :
    (initRtc fuel).wp (rtcBoard ready) SeenFirst (fun _ _ s' => SeenFirst s') g s := by
  have hquiet : ∀ s' : ClockSourceState, s'.waited = false → SeenFirst s' := by
    intro s' hidle hwaited
    exact absurd (hidle.symm.trans hwaited) Bool.false_ne_true
  -- The clock functions do not touch the RTC, so nothing is waited for while they run.
  have hidles : (configureRtcClockRcc rtcSrcHse).wp (rtcBoardClock ready) SeenFirst
      (fun _ _ s' => s'.waited = false) () s := by
    refine wp_of_step ?_ hquiet hidle
    intro s₁ e hidle₁
    exact ⟨hquiet s₁ hidle₁, fun v s₂ hstep => (clockSource_keeps hstep).1.trans hidle₁⟩
  have hconfigured : (configureRtcClockRcc rtcSrcHse).wp (rtcBoardClock ready).lax SeenFirst
      (fun status _ s' => SourceConfigured .hse ready status s' ∧ s'.waited = s.waited) () s :=
    wp_configureRtcClockRcc .hse hfirst hclear
  have hboth : (configureRtcClockRcc rtcSrcHse).wp (rtcBoardClock ready) SeenFirst
      (fun status _ s' => s'.waited = false ∧ SourceConfigured .hse ready status s') () s := by
    refine wp_mono (wp_and_lax hidles hconfigured) ?_
    rintro status _ s' ⟨hidle', hends, _⟩
    exact ⟨hidle', hends⟩
  have hclock : (callClock (configureRtcClockRcc rtcSrcHse)).wp (rtcBoard ready) SeenFirst
      (fun status _ s' => s'.waited = false ∧ SourceConfigured .hse ready status s') g s := by
    unfold callClock
    refine wp_mono (wp_aside ?_ ?_ hboth) fun _ _ _ hends => hends.2
    · exact fun _ _ hreq => hreq
    · exact fun _ _ _ _ hstep => hstep
  refine wp_seq hclock ?_
  rintro status g' s₁ ⟨hidle₁, hends⟩
  refine wp_guard (fun _ => hquiet s₁ hidle₁) fun _ => ?_
  -- From here on the flag has been seen, and every step keeps that.
  have hseen : s₁.observed = true :=
    hends.observed.trans (flagSet_mono (Nat.sub_le _ _) (inTime_iff.1 htime))
  have hkept : ∀ s' : ClockSourceState, s'.observed = true → SeenFirst s' := fun _ h _ => h
  refine wp_mono (wp_of_step ?_ hkept hseen) fun _ _ s' => hkept s'
  intro s₂ e hseen₂
  exact ⟨hkept s₂ hseen₂, fun v s₃ hstep => rtcBoard_keeps hstep hseen₂⟩

/-! ## A clock that never runs -/

/-- The RTC without a clock; nothing else is known of it. -/
def deadRtc : Env RtcEvent RtcEvent.Response ClockSourceState where
  step _ e r _ :=
    match e, r with
    | .poll flag, (v : BitVec 32) => v &&& flag = 0#32
    | _, _ => True

theorem wp_enterInit_dead {fuel : Nat} {g : RtcGlobals} :
    (enterInit fuel).wp deadRtc (fun _ => True) (fun _ _ _ => False) g s := by
  have hany : ∀ (p : RtcProc Unit) (g : RtcGlobals) (s : ClockSourceState),
      p.wp deadRtc (fun _ => True) (fun _ _ _ => True) g s :=
    fun _ _ _ => wp_of_step (fun _ _ _ => ⟨trivial, fun _ _ _ => trivial⟩) (fun _ _ => trivial)
      trivial
  refine wp_seq (hany _ _ _) ?_
  rintro _ g₁ s₁ _
  refine wp_seq (hany _ _ _) ?_
  rintro _ g₂ s₂ _
  refine wp_seq (hany _ _ _) ?_
  rintro _ g₃ s₃ _
  -- No test of `INITF` ever leaves the loop.
  refine wp_iter (fun _ _ _ => True) ?_ (fun _ _ _ _ => trivial) fuel trivial
  rintro _ g₄ s₄ _
  have hpoll : (pollRtc rtcIsrInitf).wp deadRtc (fun _ => True)
      (fun v _ _ => v &&& rtcIsrInitf = 0#32) g₄ s₄ :=
    ⟨trivial, fun _ _ hclear => hclear⟩
  refine wp_seq hpoll ?_
  intro v g₅ s₅ hclear
  rw [if_pos hclear]
  trivial

/-- `init_rtc` does not return. -/
theorem wp_initRtc_dead {fuel : Nat} {g : RtcGlobals} (hfirst : s.polls = 0)
    (hclear : s.observed = false) :
    (initRtc fuel).wp (rtcBoard none).lax (fun _ => True) (fun _ _ _ => False) g s := by
  have hconfigured : (configureRtcClockRcc rtcSrcHse).wp (clockSource .hse none) (fun _ => True)
      (fun status _ s' => SourceConfigured .hse none status s' ∧ s'.waited = s.waited) () s :=
    wp_configureRtcClockRcc .hse hfirst hclear
  have hclock : (callClock (configureRtcClockRcc rtcSrcHse)).wp (rtcBoard none).lax
      (fun _ => True) (fun status _ _ => status = 0) g s := by
    unfold callClock
    refine wp_mono (wp_aside ?_ ?_ hconfigured) fun _ _ _ hends => hends.2.1.verdict
    · exact fun _ _ _ => trivial
    · exact fun _ _ _ _ hstep => hstep
  refine wp_seq hclock ?_
  -- The dead clock was taken for a running one.
  rintro status g₁ s₁ rfl
  rw [if_neg (not_not.2 rfl)]
  have henter : (callRtc (enterInit fuel)).wp (rtcBoard none).lax (fun _ => True)
      (fun _ _ _ => False) g₁ s₁ := by
    unfold callRtc
    refine wp_embed ?_ ?_ wp_enterInit_dead
    · exact fun _ _ _ => trivial
    · intro s₂ e v s₃ hstep
      cases e with
      | poll flag => exact hstep.1 rfl
      | _ => trivial
  exact wp_seq henter fun _ _ _ hends => hends.elim

theorem clockSource_live (s : ClockSourceState) (e : ClockSourceEvent) :
    ∃ v s', (clockSource osc ready).step s e v s' := by
  cases e with
  | read reg => exact ⟨_, _, rfl, rfl⟩
  | poll reg => exact ⟨_, _, rfl, rfl⟩
  | write reg v => exact ⟨(), _, rfl⟩

theorem configureRtcClockRcc_run (osc : Oscillator) (ready : Option Nat)
    (regs : ClockSourceReg → BitVec 32) :
    ∃ status s', Runs (clockSource osc ready) (configureRtcClockRcc osc.rtcsel ()) (.start regs)
      (status, ()) s' ∧ SourceConfigured osc ready status s' := by
  have hwp : (configureRtcClockRcc osc.rtcsel).wp (clockSource osc ready) (fun _ => False)
      (fun status _ s' => SourceConfigured osc ready status s' ∧ s'.waited = false) ()
      (.start regs) := wp_configureRtcClockRcc osc rfl rfl
  rcases exists_run hwp clockSource_live with ⟨status, _, s', hrun, hends, _⟩
  exact ⟨status, s', hrun, hends⟩

/-- An HSE that never runs is reported as a success, and `init_rtc` then waits for ever; an LSE
that runs by the last test is reported as a failure. -/
theorem dead_clock_selected :
    (∃ s', Runs (clockSource .hse none) (configureRtcClockRcc rtcSrcHse ()) (.start fun _ => 0#32)
        (0, ()) s' ∧
      s'.rtcsel = rtcSrcHse ∧ s'.rtcen = true ∧ s'.observed = false ∧ ¬Truthful .hse 0 s') ∧
    (∀ fuel g status g' s', ¬Runs (rtcBoard none) (initRtc fuel g) (.start fun _ => 0#32)
      (status, g') s') ∧
    (∃ s', Runs (clockSource .lse (some 100000)) (configureRtcClockRcc rtcSrcLse ())
        (.start fun _ => 0#32) (-1, ()) s' ∧
      s'.observed = true ∧ ¬Truthful .lse (-1) s') := by
  refine ⟨?_, ?_, ?_⟩
  · -- The HSE never starts, and is selected all the same.
    rcases configureRtcClockRcc_run .hse none fun _ => 0#32 with ⟨status, s', hrun, hends⟩
    have hzero : status = 0 := hends.verdict
    subst hzero
    rcases hends.selected rfl with ⟨hsel, hen⟩
    refine ⟨s', hrun, hsel, hen, hends.observed, ?_⟩
    rw [hends.truthful_iff]
    rintro ⟨k, hk, _⟩
    cases hk
  · -- Without a clock `init_rtc` does not come back.
    intro fuel g status g' s' hrun
    exact wp_runs (wp_initRtc_dead rfl rfl) hrun.lax
  · -- An LSE that is seen to be ready in the last poll is refused.
    rcases configureRtcClockRcc_run .lse (some 100000) fun _ => 0#32 with
      ⟨status, s', hrun, hends⟩
    have hfailed : status = -1 := by
      rw [hends.verdict]
      decide
    subst hfailed
    refine ⟨s', hrun, ?_, ?_⟩
    · rw [hends.observed]
      decide
    · rw [hends.truthful_iff]
      rintro ⟨k, hk, hlt⟩
      cases hk
      exact absurd hlt (by decide)

/-- Every call returns, and the report is truthful, and a dead clock refused, exactly if the flag
becomes set before the last test. -/
theorem rtc_clock_reported_iff (osc : Oscillator) (ready : Option Nat)
    (regs : ClockSourceReg → BitVec 32) (fuel : Nat) (g : RtcGlobals) :
    (∃ status s', Runs (clockSource osc ready) (configureRtcClockRcc osc.rtcsel ()) (.start regs)
      (status, ()) s') ∧
    (((∀ status s', Runs (clockSource osc ready) (configureRtcClockRcc osc.rtcsel ())
          (.start regs) (status, ()) s' → Truthful osc status s') ∧
        (osc = .hse → DeadClockRefused ready regs fuel g)) ↔
      osc.InTime ready) := by
  rcases configureRtcClockRcc_run osc ready regs with ⟨status, s', hrun, hends⟩
  refine ⟨⟨status, s', hrun⟩, ?_, ?_⟩
  · -- One run is enough to tell.
    rintro ⟨htruthful, _⟩
    exact hends.truthful_iff.1 (htruthful status s' hrun)
  · intro htime
    refine ⟨?_, ?_⟩
    · intro status₁ s₁ hrun₁
      have hends₁ := (wp_runs (wp_configureRtcClockRcc (D := fun _ => True) osc rfl rfl) hrun₁).1
      exact hends₁.truthful_iff.2 htime
    · -- A clock that starts in time is not dead.
      rintro rfl
      refine ⟨?_, ?_⟩
      · intro q s₁ hreach
        exact wp_invariant (wp_initRtc_inTime rfl rfl rfl htime) (fun _ _ hreq => hreq)
          (fun _ _ _ hpost => hpost) (fun _ hcut => hcut) hreach
      · intro hnever
        rcases htime with ⟨k, hk, _⟩
        rw [hnever] at hk
        cases hk

end Core
end SdioFat32
