import SdioFat32.Driver.Identification
import SdioFat32.Driver.ScriptedCard

/-!
# VersionCheck — how `init_sd` takes the answer to `CMD8`

A card of version 2 echoes the argument of `CMD8`.  `CmdResp7Error` is content with one common bit
of the echo.

* `Answer.Echoes`, `Answer.Misread`: the right echo, and the words that are taken for it;
* `VersionPath`: how the part of `init_sd` before the polling loop ends;
* `VersionDetected`: the three branches of `init_sd` as they are meant.
-/

namespace SdioFat32
namespace Driver

open Effects Proc

/-! ## The echo -/

/-- The low 12 bits are those that were sent. -/
def Answer.Echoes (x : Answer) : Prop :=
  ∃ w, x = .word w ∧ w &&& 0xFFF#32 = sdVhcCheckPatern

/-- A common bit, but not the echo. -/
def Answer.Misread (x : Answer) : Prop :=
  ∃ w, x = .word w ∧ hasFlag w sdVhcCheckPatern = true ∧ w &&& 0xFFF#32 ≠ sdVhcCheckPatern

/-- The echo has a common bit. -/
theorem hasFlag_of_echo {w : BitVec 32} (h : w &&& 0xFFF#32 = sdVhcCheckPatern) :
    hasFlag w sdVhcCheckPatern = true := by
  have hmask : 0xFFF#32 &&& sdVhcCheckPatern = sdVhcCheckPatern := by decide
  have hand : w &&& sdVhcCheckPatern = sdVhcCheckPatern := by
    calc
      w &&& sdVhcCheckPatern = w &&& 0xFFF#32 &&& sdVhcCheckPatern := by
        rw [BitVec.and_assoc, hmask]
      _ = sdVhcCheckPatern := by rw [h, BitVec.and_self]
  unfold hasFlag
  rw [hand]
  decide

/-! ## The card -/

def goIdle : SentCommand := ⟨commandWord cmdGoIdleState sdioCmdNoResp, 0#32⟩
def sendIfCond : SentCommand := ⟨commandWord cmdSendIfCond sdioCmdShortResp, sdVhcCheckPatern⟩

/-- The card answers `CMD8` with `x`, and everything else as it likes. -/
def versionCard (delay : Nat) (x : Answer) : CardBehaviour where
  delay := delay
  ends sent sta := sent.head? = some sendIfCond → x.EndedBy sta
  answers sent w := sent.head? = some sendIfCond → ∀ w', x = .word w' → w = w'

theorem versionCard_live {delay : Nat} {x : Answer} (s : TalkState) (e : SdioEvent) :
    ∃ r s', (answeringCard (versionCard delay x)).step s e r s' := by
  refine answeringCard_live ?_ ?_ s e
  · intro sent
    rcases x.exists_endedBy with ⟨sta, hflag, hends⟩
    exact ⟨sta, hflag, fun _ => hends⟩
  · intro sent
    rcases x.exists_word with ⟨w, hw⟩
    exact ⟨w, fun _ => hw⟩

variable {delay fuel : Nat} {x : Answer} {card : CardBehaviour} {D : TalkState → Prop}
  {g : SdGlobals} {s : TalkState}

/-! ## The parts without an answer -/

theorem Setup.offTalk {e : SdioEvent} (h : Setup e) : OffTalk e := by
  cases e with
  | sta site => exact h.elim
  | write reg v =>
      cases reg with
      | arg => exact h.elim
      | cmd => exact h.elim
      | _ => trivial
  | _ => trivial

theorem wp_offTalk {α : Type} {p : SdProc α} (hp : p.Emits OffTalk False) :
    p.wp (answeringCard card) D (fun _ _ s' => s' = s) g s := by
  refine wp_frame hp ?_ (fun _ hcut => hcut.elim) rfl
  intro s₁ e hs₁ hoff
  refine ⟨trivial, fun r s' hstep => ?_⟩
  exact (hoff.same hstep).trans hs₁

/-- One `CMD0`, whether it is seen to be sent or not. -/
theorem wp_resetSd :
    resetSd.wp (answeringCard card) D
      (fun status g' s' => s'.sent = goIdle :: s.sent ∧
        (status = 0 → g'.sd.version = .unknown)) g s := by
  have hwait : cmdNoRespError.Emits OffTalk False := by
    have hloop : ∀ timeout, (cmdSentLoop timeout).Emits OffTalk False := by
      intro timeout
      induction timeout with
      | zero => exact emits_pure _
      | succ timeout ih =>
          refine (emits_perform trivial).bind fun sta => emits_ite ?_ ih
          exact (emits_perform trivial).bind (fun _ => emits_pure _)
    exact hloop 1000000
  refine wp_bind.2 (wp_offTalkEvent trivial fun _ => ?_)
  refine wp_bind.2 (wp_sendCommandSdio.2 ?_)
  refine wp_seq (wp_offTalk hwait) ?_
  rintro status g₁ s₁ rfl
  refine wp_bind.2 (wp_offTalkEvent trivial fun _ => ?_)
  split
  · have hfailed : errorSentData ≠ 0 := by decide
    exact ⟨rfl, fun h => absurd h hfailed⟩
  · exact ⟨rfl, fun _ => rfl⟩

/-! ## `CMD8` -/

/-- The status `CmdResp7Error` makes of an answer. -/
def Answer.ifCondStatus : Answer → Int
  | .timeout => errorWaitTime
  | .crcFailure => errorCrc
  | .word w => if hasFlag w sdVhcCheckPatern then 0 else errorMaskVhc

theorem wp_validateOperatingVoltage_version (hfuel : delay < fuel) :
    (validateOperatingVoltage fuel).wp (answeringCard (versionCard delay x)) D
      (fun status g' s' => g' = g ∧ s'.sent = sendIfCond :: s.sent ∧ status = x.ifCondStatus)
      g s := by
  unfold validateOperatingVoltage cmdResp7Error
  refine wp_bind.2 (wp_sendCommandSdio.2 ?_)
  refine wp_seq (wp_answerStatus hfuel (Nat.le_refl delay)) ?_
  rintro status g₁ s₁ ⟨rfl, hsame, sta, hends, rfl⟩
  have hsent : s₁.sent = sendIfCond :: s.sent := hsame.sent
  have hended : x.EndedBy sta := hends rfl
  cases x with
  | timeout =>
      have hstatus : answerOf sta = errorWaitTime := hended.answerOf_eq
      rw [hstatus, if_pos (by decide)]
      exact ⟨rfl, hsent, rfl⟩
  | crcFailure =>
      have hstatus : answerOf sta = errorCrc := hended.answerOf_eq
      rw [hstatus, if_pos (by decide)]
      exact ⟨rfl, hsent, rfl⟩
  | word w =>
      have hstatus : answerOf sta = 0 := hended.answerOf_eq
      rw [hstatus, if_neg (by decide)]
      refine wp_bind.2 (wp_readResp0.2 ?_)
      intro w' hw'
      have hfirst : s₁.sent.head? = some sendIfCond := by
        rw [hsent, List.head?_cons]
      have hword : w' = w := hw' hfirst w rfl
      subst hword
      -- The echo of the check pattern decides.
      split
      · rename_i hflag
        exact ⟨rfl, hsent, (if_pos hflag).symm⟩
      · rename_i hflag
        exact ⟨rfl, hsent, (if_neg hflag).symm⟩

/-! ## Up to the polling loop -/

/-- How the part of `init_sd` before the polling loop ends, with the commands that were sent, the
last one first. -/
inductive VersionPath (x : Answer) : Option Int → CardVersion → List SentCommand → Prop where
  /-- `CMD8` was not reached. -/
  | notAsked {version : CardVersion} {sent : List SentCommand} :
      sendIfCond ∉ sent → VersionPath x (some (-1)) version sent
  | accepted : x.ifCondStatus = 0 → VersionPath x none .v2x [sendIfCond, goIdle]
  | fallback {outcome : Option Int} {version : CardVersion} :
      x.ifCondStatus = errorWaitTime → (outcome = none → version = .unknown) →
        (∀ code, outcome = some code → code = -1) →
        VersionPath x outcome version [goIdle, sendIfCond, goIdle]
  | refused {version : CardVersion} :
      x.ifCondStatus ≠ 0 → x.ifCondStatus ≠ errorWaitTime →
        VersionPath x (some (-2)) version [sendIfCond, goIdle]

theorem wp_initSdStart_version (hfuel : delay < fuel) :
    (initSdStart fuel).wp (answeringCard (versionCard delay x)) D
      (fun outcome g' s' => VersionPath x outcome g'.sd.version s'.sent) g .start := by
  have hnotAsked : sendIfCond ∉ [goIdle] := by decide
  unfold initSdStart
  refine wp_bind.2 (wp_assignSd.2 ?_)
  refine wp_seq (wp_offTalk (emits_initSdio_setup.mono fun _ he => he.offTalk)) ?_
  rintro status g₁ s₁ rfl
  split
  · exact .notAsked List.not_mem_nil
  refine wp_seq wp_resetSd ?_
  rintro status g₂ s₂ ⟨hsent₂, _⟩
  have hreset : s₂.sent = [goIdle] := hsent₂
  split
  · exact .notAsked (hreset ▸ hnotAsked)
  refine wp_seq (wp_validateOperatingVoltage_version hfuel) ?_
  rintro status g₃ s₃ ⟨rfl, hsent₃, rfl⟩
  rw [hreset] at hsent₃
  split
  · rename_i hzero
    refine wp_bind.2 (wp_assignSd.2 ?_)
    -- `CMD8` was accepted.
    show VersionPath x none .v2x s₃.sent
    rw [hsent₃]
    exact .accepted hzero
  split
  · rename_i htimeout
    -- It timed out: the version stands if the reset succeeds.
    refine wp_bind.2 (wp_assignSd.2 ?_)
    refine wp_seq wp_resetSd ?_
    rintro status g₄ s₄ ⟨hsent₄, hversion⟩
    rw [hsent₃] at hsent₄
    split
    · show VersionPath x (some (-1)) g₄.sd.version s₄.sent
      rw [hsent₄]
      exact .fallback htimeout (fun h => by cases h) (fun code h => by cases h; rfl)
    · rename_i hok
      show VersionPath x none g₄.sd.version s₄.sent
      rw [hsent₄]
      exact .fallback htimeout (fun _ => hversion (not_not.1 hok)) (fun code h => by cases h)
  · rename_i hne hnotTimeout
    show VersionPath x (some (-2)) g₃.sd.version s₃.sent
    rw [hsent₃]
    exact .refused hne hnotTimeout

/-! ## The three branches -/

/-- What was taken for version 2 is the echo, and what was taken for version 1 is a timeout. -/
def BranchesMeant (x : Answer) (outcome : Option Int) (version : CardVersion)
    (sent : List SentCommand) : Prop :=
  (outcome = none ∧ version = .v2x ↔ x.Echoes) ∧
    (sent = [goIdle, sendIfCond, goIdle] ↔ x = .timeout)

theorem Answer.ifCondStatus_eq_zero {x : Answer} (h : ¬x.Misread) :
    x.ifCondStatus = 0 ↔ x.Echoes := by
  cases x with
  | timeout =>
      refine iff_of_false (by decide) ?_
      rintro ⟨w, hw, _⟩
      cases hw
  | crcFailure =>
      refine iff_of_false (by decide) ?_
      rintro ⟨w, hw, _⟩
      cases hw
  | word w =>
      constructor
      · intro hstatus
        have hflag : hasFlag w sdVhcCheckPatern = true := by
          by_contra hnone
          exact absurd ((if_neg hnone).symm.trans hstatus) (by decide)
        exact ⟨w, rfl, by_contra fun hne => h ⟨w, rfl, hflag, hne⟩⟩
      · rintro ⟨w', hw', hecho⟩
        cases hw'
        exact if_pos (hasFlag_of_echo hecho)

theorem Answer.ifCondStatus_eq_errorWaitTime {x : Answer} :
    x.ifCondStatus = errorWaitTime ↔ x = .timeout := by
  cases x with
  | timeout => exact iff_of_true rfl rfl
  | crcFailure => exact iff_of_false (by decide) (by simp)
  | word w =>
      refine iff_of_false ?_ (by simp)
      show (if hasFlag w sdVhcCheckPatern then (0 : Int) else errorMaskVhc) ≠ errorWaitTime
      split <;> decide

theorem Answer.not_echoes_timeout : ¬Answer.timeout.Echoes := by
  rintro ⟨w, hw, _⟩
  cases hw

theorem VersionPath.branchesMeant {outcome : Option Int} {version : CardVersion}
    {sent : List SentCommand} (hnot : ¬x.Misread) (h : VersionPath x outcome version sent)
    (hasked : sendIfCond ∈ sent) : BranchesMeant x outcome version sent := by
  have hthree : [sendIfCond, goIdle] ≠ [goIdle, sendIfCond, goIdle] := by decide
  cases h with
  | notAsked hnone => exact absurd hasked hnone
  | accepted hzero =>
      have hecho : x.Echoes := (Answer.ifCondStatus_eq_zero hnot).1 hzero
      refine ⟨iff_of_true ⟨rfl, rfl⟩ hecho, iff_of_false hthree ?_⟩
      rintro rfl
      exact Answer.not_echoes_timeout hecho
  | fallback htimeout hversion _ =>
      have hx : x = .timeout := Answer.ifCondStatus_eq_errorWaitTime.1 htimeout
      subst hx
      refine ⟨iff_of_false ?_ Answer.not_echoes_timeout, iff_of_true rfl rfl⟩
      rintro ⟨hnone, hv2⟩
      exact absurd ((hversion hnone).symm.trans hv2) (by decide)
  | refused hne hnotTimeout =>
      refine ⟨iff_of_false (fun h => by cases h.1) ?_, iff_of_false hthree ?_⟩
      · exact fun hecho => hne ((Answer.ifCondStatus_eq_zero hnot).2 hecho)
      · exact fun hx => hnotTimeout (Answer.ifCondStatus_eq_errorWaitTime.2 hx)

/-- Neither the echo nor a timeout, and not taken for the echo either: `init_sd` fails. -/
theorem VersionPath.fails {outcome : Option Int} {version : CardVersion}
    {sent : List SentCommand} (hnot : ¬x.Misread) (hecho : ¬x.Echoes) (htimeout : x ≠ .timeout)
    (h : VersionPath x outcome version sent) : ∃ code < 0, outcome = some code := by
  cases h with
  | notAsked _ => exact ⟨-1, by decide, rfl⟩
  | accepted hzero => exact absurd ((Answer.ifCondStatus_eq_zero hnot).1 hzero) hecho
  | fallback hstatus _ _ =>
      exact absurd (Answer.ifCondStatus_eq_errorWaitTime.1 hstatus) htimeout
  | refused _ _ => exact ⟨-2, by decide, rfl⟩

/-! ## A peripheral that powers on -/

/-- The power comes on at the first poll, and a command without a response is seen to be sent. -/
def Cooperates : (e : SdioEvent) → e.Response → Prop
  | .read .power, (w : BitVec 32) => w &&& sdioPwrctrlOn = sdioPwrctrlOn
  | .sta .cmdSent, (w : BitVec 32) => hasFlag w sdioStaCmdsent = true
  | _, _ => True

def obligingCard (card : CardBehaviour) : Env SdioEvent SdioEvent.Response TalkState where
  step s e r s' := (answeringCard card).step s e r s' ∧ Cooperates e r

theorem wp_obliging {α : Type} {p : SdProc α} {Q : α → SdGlobals → TalkState → Prop}
    (h : p.wp (answeringCard card) D Q g s) : p.wp (obligingCard card) D Q g s := by
  refine wp_narrow ?_ ?_ h
  · exact fun _ _ _ _ hstep => hstep.1
  · exact fun _ _ _ => trivial

theorem obligingCard_live (s : TalkState) (e : SdioEvent) :
    ∃ r s', (obligingCard (versionCard delay x)).step s e r s' := by
  have hlive : ∃ r s', (answeringCard (versionCard delay x)).step s e r s' := versionCard_live s e
  rcases hlive with ⟨r, s', hstep⟩
  cases e with
  | sta site =>
      cases site with
      | cmdSent =>
          have hflag : hasFlag sdioStaCmdsent sdioStaCmdsent = true := by decide
          exact ⟨sdioStaCmdsent, s, rfl, hflag⟩
      | _ => exact ⟨r, s', hstep, trivial⟩
  | read reg =>
      cases reg with
      | power =>
          have hon : sdioPwrctrlOn &&& sdioPwrctrlOn = sdioPwrctrlOn := by decide
          exact ⟨sdioPwrctrlOn, s, rfl, hon⟩
      | _ => exact ⟨r, s', hstep, trivial⟩
  | _ => exact ⟨r, s', hstep, trivial⟩

theorem obligingCard_runs {α : Type} {p : Prog SdioEvent SdioEvent.Response α} {a : α}
    {s' : TalkState} (h : Runs (obligingCard card) p s a s') :
    Runs (answeringCard card) p s a s' := by
  have hstep : ∀ s e r s', (obligingCard card).step s e r s' →
      (answeringCard card).step s e r s' :=
    fun _ _ _ _ hstep => hstep.1
  exact h.widen hstep

theorem wp_offTalkEvent_obliging {e : SdioEvent} {Q : e.Response → SdGlobals → TalkState → Prop}
    (hoff : OffTalk e) (h : ∀ r, Q r g s) : (perform e).wp (obligingCard card) D Q g s :=
  wp_obliging (wp_offTalkEvent hoff h)

theorem wp_readPower_obliging {Q : BitVec 32 → SdGlobals → TalkState → Prop}
    (h : ∀ w : BitVec 32, w &&& sdioPwrctrlOn = sdioPwrctrlOn → Q w g s) :
    (readReg .power).wp (obligingCard card) D Q g s := by
  refine ⟨trivial, ?_⟩
  rintro (w : BitVec 32) s₁ ⟨hstep, hon⟩
  have hsame : s₁ = s := hstep
  subst hsame
  exact h w hon

theorem wp_readCmdSent_obliging {Q : BitVec 32 → SdGlobals → TalkState → Prop}
    (h : ∀ w : BitVec 32, hasFlag w sdioStaCmdsent = true → Q w g s) :
    (readSta .cmdSent).wp (obligingCard card) D Q g s := by
  refine ⟨trivial, ?_⟩
  rintro (w : BitVec 32) s₁ ⟨hstep, hflag⟩
  have hsame : s₁ = s := hstep
  subst hsame
  exact h w hflag

theorem wp_configurePowerSdio_on :
    (configurePowerSdio true).wp (obligingCard card) D
      (fun status _ s' => status = 0 ∧ s' = s) g s := by
  have hloop : (powerOnLoop 10000).wp (obligingCard card) D
      (fun status _ s' => status = 0 ∧ s' = s) g s := by
    refine wp_bind.2 (wp_readPower_obliging fun w hon => ?_)
    rw [if_pos hon]
    exact ⟨rfl, rfl⟩
  unfold configurePowerSdio
  rw [if_pos rfl]
  refine wp_bind.2 (wp_offTalkEvent_obliging trivial fun _ => ?_)
  refine wp_seq hloop ?_
  rintro status g₁ s₁ ⟨rfl, rfl⟩
  rw [if_neg (by decide)]
  exact wp_bind.2 (wp_offTalkEvent_obliging trivial fun _ => ⟨rfl, rfl⟩)

theorem wp_initSdio_obliging :
    initSdio.wp (obligingCard card) D (fun status _ s' => status = 0 ∧ s' = s) g s := by
  unfold initSdio
  iterate 9 refine wp_bind.2 (wp_offTalkEvent_obliging trivial fun _ => ?_)
  refine wp_seq (wp_obliging (wp_offTalk (emits_configurePowerSdio.mono fun _ he => he.offTalk))) ?_
  rintro _ g₁ s₁ rfl
  refine wp_bind.2 (wp_offTalkEvent_obliging trivial fun _ => ?_)
  refine wp_seq wp_configurePowerSdio_on ?_
  rintro status g₂ s₂ ⟨rfl, rfl⟩
  rw [if_neg (by decide)]
  iterate 2 refine wp_bind.2 (wp_offTalkEvent_obliging trivial fun _ => ?_)
  refine wp_seq (wp_obliging
    (wp_offTalk (emits_setBusWidthSdio_setup.mono fun _ he => he.offTalk))) ?_
  rintro _ g₃ s₃ rfl
  refine wp_bind.2 (wp_offTalkEvent_obliging trivial fun _ => ?_)
  refine wp_seq (wp_obliging
    (wp_offTalk (emits_setClockFrequencySdio_setup.mono fun _ he => he.offTalk))) ?_
  rintro _ g₄ s₄ rfl
  exact wp_bind.2 (wp_offTalkEvent_obliging trivial fun _ => ⟨rfl, rfl⟩)

/-- `CMD0` is seen to be sent at the first poll. -/
theorem wp_resetSd_obliging :
    resetSd.wp (obligingCard card) D (fun status _ _ => status = 0) g s := by
  have hwait : ∀ s₁ : TalkState, cmdNoRespError.wp (obligingCard card) D
      (fun status _ _ => status = 0) g s₁ := by
    intro s₁
    refine wp_bind.2 (wp_readCmdSent_obliging fun w hflag => ?_)
    rw [if_pos hflag]
    exact wp_bind.2 (wp_offTalkEvent_obliging trivial fun _ => rfl)
  refine wp_bind.2 (wp_offTalkEvent_obliging trivial fun _ => ?_)
  refine wp_bind.2 (wp_obliging (wp_sendCommandSdio.2 ?_))
  refine wp_seq (hwait _) ?_
  rintro status g₁ s₁ rfl
  refine wp_bind.2 (wp_offTalkEvent_obliging trivial fun _ => ?_)
  rfl

/-- Then `CMD8` is sent. -/
theorem wp_initSdStart_asks (hfuel : delay < fuel) :
    (initSdStart fuel).wp (obligingCard (versionCard delay x)) D
      (fun _ _ s' => sendIfCond ∈ s'.sent) g .start := by
  unfold initSdStart
  refine wp_bind.2 (wp_assignSd.2 ?_)
  refine wp_seq wp_initSdio_obliging ?_
  rintro status g₁ s₁ ⟨rfl, rfl⟩
  rw [if_neg (by decide)]
  refine wp_seq wp_resetSd_obliging ?_
  rintro status g₂ s₂ rfl
  rw [if_neg (by decide)]
  refine wp_seq (wp_obliging (wp_validateOperatingVoltage_version hfuel)) ?_
  rintro status g₃ s₃ ⟨rfl, hsent₃, rfl⟩
  have hasked : sendIfCond ∈ s₃.sent := hsent₃ ▸ List.mem_cons_self
  split
  · exact wp_bind.2 (wp_assignSd.2 hasked)
  split
  · refine wp_bind.2 (wp_assignSd.2 ?_)
    refine wp_seq (wp_obliging wp_resetSd) ?_
    rintro status g₄ s₄ ⟨hsent₄, _⟩
    have hasked₄ : sendIfCond ∈ s₄.sent := hsent₄ ▸ List.mem_cons_of_mem _ hasked
    split
    · exact hasked₄
    · exact hasked₄
  · exact hasked

/-! ## When the version is detected -/

/-- In every run in which the card is asked, the branch is the right one, and `init_sd` fails on
any answer that is neither the echo nor a timeout. -/
def VersionDetected (delay fuel : Nat) (x : Answer) (g : SdGlobals) : Prop :=
  (∀ outcome g' s', Runs (answeringCard (versionCard delay x)) (initSdStart fuel g) .start
    (outcome, g') s' → sendIfCond ∈ s'.sent → BranchesMeant x outcome g'.sd.version s'.sent) ∧
  ∀ status g' s', Runs (answeringCard (versionCard delay x)) (initSd fuel g) .start
    (status, g') s' → sendIfCond ∈ s'.sent → ¬x.Echoes → x ≠ .timeout → status < 0

/-- An outcome that decides is what `init_sd` returns. -/
theorem wp_initSd_fails (hfuel : delay < fuel) (hnot : ¬x.Misread) (hecho : ¬x.Echoes)
    (htimeout : x ≠ .timeout) :
    (initSd fuel).wp (answeringCard (versionCard delay x)) D (fun status _ _ => status < 0) g
      .start := by
  have hstart : (initSdVoltage fuel).wp (answeringCard (versionCard delay x)) D
      (fun outcome _ _ => ∃ code < 0, outcome = some code) g .start := by
    refine wp_seq (wp_initSdStart_version hfuel) ?_
    intro outcome g₁ s₁ hpath
    rcases hpath.fails hnot hecho htimeout with ⟨code, hneg, rfl⟩
    exact ⟨code, hneg, rfl⟩
  refine wp_seq hstart ?_
  rintro _ g₁ s₁ ⟨code, hneg, rfl⟩
  exact hneg

/-- A run in which the card is asked. -/
theorem exists_initSdStart_asks (hfuel : delay < fuel) :
    ∃ outcome g' s', Runs (answeringCard (versionCard delay x)) (initSdStart fuel g) .start
      (outcome, g') s' ∧ sendIfCond ∈ s'.sent ∧ VersionPath x outcome g'.sd.version s'.sent := by
  rcases exists_run (wp_initSdStart_asks hfuel) obligingCard_live with
    ⟨outcome, g', s', hrun, hasked⟩
  have hwide := obligingCard_runs hrun
  have hpath := wp_runs (wp_initSdStart_version (D := fun _ => True) hfuel) hwide
  exact ⟨outcome, g', s', hwide, hasked, hpath⟩

theorem VersionPath.of_misread {outcome : Option Int} {version : CardVersion}
    {sent : List SentCommand} (hmisread : x.Misread) (h : VersionPath x outcome version sent)
    (hasked : sendIfCond ∈ sent) : outcome = none ∧ version = .v2x := by
  have hzero : x.ifCondStatus = 0 := by
    rcases hmisread with ⟨w, rfl, hflag, _⟩
    exact if_pos hflag
  cases h with
  | notAsked hnone => exact absurd hasked hnone
  | accepted _ => exact ⟨rfl, rfl⟩
  | fallback htimeout _ _ => exact absurd (hzero.symm.trans htimeout) (by decide)
  | refused hne _ => exact absurd hzero hne

theorem Answer.Misread.not_echoes (h : x.Misread) : ¬x.Echoes := by
  rcases h with ⟨w, rfl, _, hne⟩
  rintro ⟨w', hw', hecho⟩
  cases hw'
  exact hne hecho

/-- An answer that echoes the pattern and accepts no voltage is taken for version 2. -/
theorem unsupported_voltage_accepted :
    ∃ outcome g' s', Runs (answeringCard (versionCard 0 (.word 0xAA#32)))
        (initSdStart 1 blankGlobals) .start (outcome, g') s' ∧
      outcome = none ∧ g'.sd.version = .v2x ∧ ¬(Answer.word 0xAA#32).Echoes ∧
      ¬VersionDetected 0 1 (.word 0xAA#32) blankGlobals := by
  have hmisread : (Answer.word 0xAA#32).Misread := ⟨0xAA#32, rfl, by decide, by decide⟩
  rcases exists_initSdStart_asks Nat.zero_lt_one with ⟨outcome, g', s', hrun, hasked, hpath⟩
  rcases hpath.of_misread hmisread hasked with ⟨hnone, hversion⟩
  refine ⟨outcome, g', s', hrun, hnone, hversion, hmisread.not_echoes, ?_⟩
  intro hdetected
  exact hmisread.not_echoes ((hdetected.1 outcome g' s' hrun hasked).1.1 ⟨hnone, hversion⟩)

/-- The version is detected on exactly the answers that are not misread. -/
theorem version_detected_iff (delay fuel : Nat) (hfuel : delay < fuel) (x : Answer)
    (g : SdGlobals) : VersionDetected delay fuel x g ↔ ¬x.Misread := by
  constructor
  · intro hdetected hmisread
    rcases exists_initSdStart_asks hfuel with ⟨outcome, g', s', hrun, hasked, hpath⟩
    have hv2 := hpath.of_misread hmisread hasked
    exact hmisread.not_echoes ((hdetected.1 outcome g' s' hrun hasked).1.1 hv2)
  · intro hnot
    refine ⟨?_, ?_⟩
    · intro outcome g' s' hrun hasked
      have hpath := wp_runs (wp_initSdStart_version (D := fun _ => True) hfuel) hrun
      exact hpath.branchesMeant hnot hasked
    · intro status g' s' hrun _ hecho htimeout
      have hfails : (initSd fuel).wp (answeringCard (versionCard delay x)) (fun _ => True)
          (fun status _ _ => status < 0) g .start := wp_initSd_fails hfuel hnot hecho htimeout
      have hneg := wp_runs hfails hrun
      exact hneg

/-- The echo. -/
theorem version_detected_iff_echo :
    VersionDetected 0 1 (.word 0x1AA#32) blankGlobals :=
  (version_detected_iff 0 1 Nat.zero_lt_one (.word 0x1AA#32) blankGlobals).2 (by
    rintro ⟨w, hw, _, hne⟩
    cases hw
    exact absurd rfl hne)

end Driver
end SdioFat32
