import SdioFat32.Driver.AnsweringCard
import SdioFat32.Driver.Identification

/-!
# PowerUp — the `ACMD41` handshake of `init_sd`

The card answers the `i`-th `ACMD41` with the word `r i` and accepts every `CMD55`; everything
else it answers is arbitrary.  `Handshake` says how the polling loop ends if the power-up bit, the
voltage window and `CCS` are at given positions.  The code meets it one position too low: its
`OCR_Type` lacks one reserved bit.  So it meets the positions of the card specification exactly
for the sequences on which the two readings agree.
-/

namespace SdioFat32
namespace Driver

open Effects Proc

/-! ## The card -/

def opCondWord : BitVec 32 := commandWord acmdSendOpCond sdioCmdShortResp

/-- How often `ACMD41` was sent. -/
def polls (sent : List SentCommand) : Nat :=
  sent.countP (fun c => c.word = opCondWord)

def ocrCard (delay : Nat) (r : Nat → BitVec 32) : CardBehaviour where
  delay := delay
  ends
    | [], _ => True
    | c :: _, sta =>
        if c.word = appCmdWord then
          hasFlag sta sdioStaCtimeout = false ∧ hasFlag sta sdioStaCcrcfail = false
        -- R3 has no CRC, so a CRC failure may be shown for it.
        else if c.word = opCondWord then hasFlag sta sdioStaCtimeout = false
        else True
  answers
    | [], _ => True
    | c :: sent, w =>
        if c.word = appCmdWord then r1Error w = 0
        else if c.word = opCondWord then w = r (polls (c :: sent))
        else True

/-! ## The specification -/

/-- `i` is the first of the polls whose word has the bit. -/
structure FirstWith (r : Nat → BitVec 32) (bit i : Nat) : Prop where
  pos : 1 ≤ i
  le : i ≤ sdMaxVoltTrial
  set : (r i).getLsbD bit = true
  first : ∀ j, 1 ≤ j → j < i → (r j).getLsbD bit = false

/-- The end of the polling loop, for words with the power-up bit, the nine bits of voltage and
`CCS` at the given positions; `status` is what `init_sd` goes on to return. -/
structure Handshake (r : Nat → BitVec 32) (ready voltage ccs : Nat) (outcome : Option Int)
    (status : Int) (g : SdGlobals) (n : Nat) : Prop where
  leaves : ∀ i, FirstWith r ready i →
    outcome = none ∧ n = i ∧ g.sd.voltage = ((r i).extractLsb' voltage 9).setWidth 32 ∧
      g.sd.version = if (r i).getLsbD ccs then .sdxc else .sdsc
  fails : (∀ i, ¬FirstWith r ready i) → outcome = some (-1) ∧ status = -1

/-- The words on which reading every field one bit too low makes no difference. -/
def ReadingsAgree (r : Nat → BitVec 32) : Prop :=
  (∀ i, ¬FirstWith r 31 i ∧ ¬FirstWith r 30 i) ∨
    ∃ i, FirstWith r 31 i ∧ FirstWith r 30 i ∧
      (r i).extractLsb' 15 9 = (r i).extractLsb' 14 9 ∧ (r i).getLsbD 29 = true

section Specification

variable {r : Nat → BitVec 32} {bit i j : Nat}

theorem FirstWith.unique (hi : FirstWith r bit i) (hj : FirstWith r bit j) : i = j := by
  rcases Nat.lt_trichotomy i j with hlt | heq | hlt
  · exact absurd hi.set (by simp [hj.first i hi.pos hlt])
  · exact heq
  · exact absurd hj.set (by simp [hi.first j hj.pos hlt])

theorem Handshake.iff_readingsAgree {outcome : Option Int} {status : Int} {g : SdGlobals} {n : Nat}
    (hcode : Handshake r 30 14 29 outcome status g n) :
    Handshake r 31 15 30 outcome status g n ↔ ReadingsAgree r := by
  constructor
  · intro hspec
    by_cases h31 : ∃ i, FirstWith r 31 i
    · rcases h31 with ⟨i, hi⟩
      rcases hspec.leaves i hi with ⟨hout, hn, hvoltage, hversion⟩
      -- Without bit 30 the code would not have left the loop.
      have h30 : ∃ k, FirstWith r 30 k := by
        by_contra hnone
        rcases hcode.fails (not_exists.1 hnone) with ⟨hout', _⟩
        simp [hout] at hout'
      rcases h30 with ⟨k, hk⟩
      rcases hcode.leaves k hk with ⟨_, hn', hvoltage', hversion'⟩
      -- Both readings leave at the poll at which the loop was left.
      have hik : i = k := hn.symm.trans hn'
      subst hik
      refine Or.inr ⟨i, hi, hk, ?_, ?_⟩
      -- `SD.voltage` is one value, so the two windows agree.
      · have hwide := hvoltage.symm.trans hvoltage'
        have hnat := congrArg BitVec.toNat hwide
        rw [BitVec.toNat_setWidth_of_le (by decide), BitVec.toNat_setWidth_of_le (by decide)] at hnat
        exact BitVec.eq_of_toNat_eq hnat
      · have hset := hk.set
        -- Bit 30 is set, so the class is `CARD_SDXC`, which the code takes from bit 29.
        rw [hversion, hset] at hversion'
        by_contra h29
        rw [if_neg h29, if_pos rfl] at hversion'
        cases hversion'
    · have hnone := not_exists.1 h31
      rcases hspec.fails hnone with ⟨hout, _⟩
      refine Or.inl (fun i => ⟨hnone i, fun hi => ?_⟩)
      rcases hcode.leaves i hi with ⟨hout', _⟩
      simp [hout'] at hout
  · rintro (hnone | ⟨i, hi, hk, hvoltage, hccs⟩)
    · exact
        { leaves := fun i hi => absurd hi (hnone i).1
          fails := fun _ => hcode.fails (fun i => (hnone i).2) }
    · refine ⟨fun j hj => ?_, fun h => absurd hi (h i)⟩
      have hji : j = i := hj.unique hi
      subst hji
      rcases hcode.leaves j hk with ⟨hout, hn, hvoltage', hversion⟩
      have hset := hk.set
      rw [hvoltage, hset]
      rw [hccs] at hversion
      exact ⟨hout, hn, hvoltage', hversion⟩

end Specification

/-! ## Before the loop -/

/-- Events that neither wait for an answer nor send `ACMD41`. -/
def Aside : SdioEvent → Prop
  | .sta .cmdResp => False
  | .write .cmd w => w ≠ opCondWord
  | _ => True

/-- `ACMD41` was sent `n` times. -/
structure Polled (delay n : Nat) (s : TalkState) : Prop where
  polls : polls s.sent = n
  quiet : s.quiet ≤ delay

variable {r : Nat → BitVec 32} {delay fuel n : Nat} {D : TalkState → Prop} {g : SdGlobals}
  {s s' : TalkState}

theorem Polled.same (h : Polled delay n s) (hsame : SameTalk (ocrCard delay r) s s') :
    Polled delay n s' where
  polls := hsame.sent.symm ▸ h.polls
  quiet := hsame.quiet

theorem Polled.send (h : Polled delay n s) (command arg formatResp : BitVec 32)
    (hword : commandWord command formatResp ≠ opCondWord) :
    Polled delay n
      { sent := ⟨commandWord command formatResp, arg⟩ :: s.sent
        arg := arg
        quiet := delay } where
  polls := by simpa [Driver.polls, hword] using h.polls
  quiet := Nat.le_refl delay

theorem Polled.aside {e : SdioEvent} {w : e.Response} (h : Polled delay n s) (haside : Aside e)
    (hstep : (answeringCard (ocrCard delay r)).step s e w s') : Polled delay n s' := by
  -- Other events do not change the commands sent; a command other than `ACMD41` is not counted.
  by_cases hoff : OffTalk e
  · rw [hoff.same hstep]
    exact h
  · cases e with
    | sta site =>
        cases site with
        | cmdResp => exact haside.elim
        | _ => exact absurd trivial hoff
    | write reg v =>
        cases reg with
        | arg =>
            subst hstep
            exact ⟨h.polls, h.quiet⟩
        | cmd =>
            subst hstep
            have hne : v ≠ opCondWord := haside
            exact ⟨by simpa [Driver.polls, hne] using h.polls, Nat.le_refl delay⟩
        | _ => exact absurd trivial hoff
    | _ => exact absurd trivial hoff

theorem wp_aside {α : Type} {p : SdProc α} (hp : p.Emits Aside False) (h : Polled delay n s) :
    p.wp (answeringCard (ocrCard delay r)) D (fun _ _ s' => Polled delay n s') g s :=
  wp_frame hp (fun _ _ hs haside => ⟨trivial, fun _ _ hstep => hs.aside haside hstep⟩)
    (fun _ hcut => hcut.elim) h

theorem Mute.aside {e : SdioEvent} (he : Mute e) : Aside e := by
  cases e with
  | sta site =>
      cases site with
      | cmdResp => exact he.elim
      | _ => trivial
  | write reg v =>
      cases reg with
      | cmd =>
          -- `ACMD41` has a response.
          have hreply : expectsReply opCondWord = true := by decide
          rintro rfl
          exact absurd (hreply.symm.trans he) Bool.true_eq_false.mp
      | _ => trivial
  | _ => trivial

theorem wp_mute {α : Type} {p : SdProc α} (hp : p.Emits Mute False) (h : Polled delay n s) :
    p.wp (answeringCard (ocrCard delay r)) D (fun _ _ s' => Polled delay n s') g s :=
  wp_aside (hp.mono fun _ he => he.aside) h

/-- `CMD8` is answered, one way or another. -/
theorem wp_validateOperatingVoltage (hfuel : delay < fuel) (h : Polled delay n s) :
    (validateOperatingVoltage fuel).wp (answeringCard (ocrCard delay r)) D
      (fun _ _ s' => Polled delay n s') g s := by
  unfold validateOperatingVoltage cmdResp7Error
  simp only [wp_bind, wp_sendCommandSdio]
  have hsent : Polled delay n _ := h.send cmdSendIfCond sdVhcCheckPatern sdioCmdShortResp
    (by decide)
  refine wp_mono (wp_answerStatus hfuel hsent.quiet) ?_
  rintro status g' s' ⟨_, hsame, _⟩
  have hpolled := hsent.same hsame
  split
  · exact hpolled
  · simp only [wp_bind, wp_readResp0]
    intro response _
    split
    · exact hpolled
    · exact hpolled

/-- Before the loop no `ACMD41` is sent. -/
theorem wp_initSdStart (hfuel : delay < fuel) (h : Polled delay n s) :
    (initSdStart fuel).wp (answeringCard (ocrCard delay r)) D (fun _ _ s' => Polled delay n s')
      g s := by
  unfold initSdStart
  refine wp_seq (wp_aside (emits_assign _) h) ?_
  intro _ g₁ s₁ h₁
  refine wp_seq (wp_mute emits_initSdio h₁) ?_
  intro status g₂ s₂ h₂
  split
  · exact h₂
  · refine wp_seq (wp_mute emits_resetSd h₂) ?_
    intro status g₃ s₃ h₃
    split
    · exact h₃
    · refine wp_seq (wp_validateOperatingVoltage hfuel h₃) ?_
      intro status g₄ s₄ h₄
      split
      · exact h₄
      · split
        · -- A card that does not know `CMD8` is reset once more.
          refine wp_seq (wp_aside (emits_assign _) h₄) ?_
          intro _ g₅ s₅ h₅
          refine wp_seq (wp_mute emits_resetSd h₅) ?_
          intro status g₆ s₆ h₆
          split
          · exact h₆
          · exact h₆
        · exact h₄

/-! ## The loop -/

/-- `CMD55` is accepted at the first attempt. -/
theorem wp_appCmdLoop {attempts : Nat} {cs : CardStatus} (hfuel : delay < fuel)
    (h : Polled delay n s) :
    (appCmdLoop fuel (attempts + 1) cs).wp (answeringCard (ocrCard delay r)) D
      (fun status _ s' => status = 0 ∧ Polled delay n s') g s := by
  rw [appCmdLoop]
  simp only [wp_bind, wp_globals, wp_sendCommandSdio]
  have hsent : Polled delay n _ := h.send cmdAppCmd (g.sd.rca.setWidth 32 <<< 16)
    sdioCmdShortResp (by decide)
  refine wp_mono (wp_cmdResp1Error hfuel hsent.quiet) ?_
  rintro ⟨status, cs'⟩ g' s' ⟨hsame, sta, hends, hanswer⟩
  -- The wait ended without an error, and so did the status word.
  have haccepted : answerOf sta = 0 := by
    rcases hends with ⟨htimeout, hcrc⟩
    simp [answerOf, htimeout, hcrc]
  have hstatus : status = 0 := by
    rcases hanswer with ⟨hfailed, _⟩ | ⟨_, w, hw, hr1, _⟩
    · exact absurd haccepted hfailed
    · have hw' : r1Error w = 0 := hw
      rw [hw'] at hr1
      exact hr1
  subst hstatus
  exact ⟨rfl, hsent.same hsame⟩

theorem wp_sendCommandSpecific (hfuel : delay < fuel) (h : Polled delay n s) :
    (sendCommandSpecific fuel acmdSendOpCond (sdHighCapacity ||| sdWindowVoltage)
      sdioCmdShortResp).wp (answeringCard (ocrCard delay r)) D
      (fun status _ s' => status = 0 ∧ s'.quiet ≤ delay ∧ ∃ arg sent,
        s'.sent = ⟨opCondWord, arg⟩ :: sent ∧ polls s'.sent = n + 1) g s := by
  unfold sendCommandSpecific
  refine wp_seq (wp_aside (emits_perform trivial) h) ?_
  intro cs g₁ s₁ h₁
  refine wp_seq (wp_appCmdLoop hfuel h₁) ?_
  rintro status g₂ s₂ ⟨rfl, h₂⟩
  simp only [ne_eq, not_true_eq_false, if_false, wp_bind, wp_sendCommandSdio, wp_pure, true_and]
  refine ⟨Nat.le_refl delay, _, s₂.sent, rfl, ?_⟩
  -- One `ACMD41` more.
  have hone := List.countP_cons_of_pos (p := fun c : SentCommand => c.word = opCondWord)
    (a := ⟨opCondWord, sdHighCapacity ||| sdWindowVoltage⟩) (l := s₂.sent) (by simp)
  exact hone.trans (congrArg (· + 1) h₂.polls)

/-- What `CmdResp3Error` makes of the `i`-th word. -/
theorem wp_cmdResp3Error {i : Nat} {arg : BitVec 32} {sent : List SentCommand}
    (hfuel : delay < fuel) (hquiet : s.quiet ≤ delay)
    (hsent : s.sent = ⟨opCondWord, arg⟩ :: sent) (hpolls : polls s.sent = i) :
    (cmdResp3Error fuel).wp (answeringCard (ocrCard delay r)) D
      (fun status g' s' => Polled delay i s' ∧
        (((r i).getLsbD 30 = false ∧ status = 1) ∨
          ((r i).getLsbD 30 = true ∧ status = 0 ∧
            g'.sd.voltage = ((r i).extractLsb' 14 9).setWidth 32 ∧
            g'.sd.version = if (r i).getLsbD 29 then .sdxc else .sdsc))) g s := by
  unfold cmdResp3Error
  refine wp_seq (wp_waitResponse hfuel hquiet) ?_
  rintro sta g' s' ⟨_, hsame, _, hends⟩
  have htimeout : hasFlag sta sdioStaCtimeout = false := by
    rw [hsent] at hends
    exact hends
  have hpolled : Polled delay i s' := ⟨hsame.sent.symm ▸ hpolls, hsame.quiet⟩
  simp only [htimeout, Bool.false_eq_true, if_false, wp_bind, wp_clearFlagSdio, wp_readResp0]
  intro w hw
  -- The last command is the `i`-th `ACMD41`.
  have hw' : w = r i := by
    rw [hsame.sent, hsent] at hw
    rw [hsent] at hpolls
    rw [← hpolls]
    exact hw
  subst hw'
  split
  · rename_i hbusy
    exact ⟨hpolled, Or.inl ⟨hbusy, rfl⟩⟩
  · rename_i hbusy
    -- `busy` is bit 30 here.
    have hready : (r i).getLsbD 30 = true := by simpa [ocrOfWord] using hbusy
    exact ⟨hpolled, Or.inr ⟨hready, rfl, rfl, rfl⟩⟩

/-- The loop meets the handshake one bit too low. -/
theorem wp_voltageLoop (hfuel : delay < fuel) (trials : Nat) (htrials : n + trials = sdMaxVoltTrial)
    (hbusy : ∀ j, 1 ≤ j → j ≤ n → (r j).getLsbD 30 = false) (h : Polled delay n s) :
    (voltageLoop fuel trials).wp (answeringCard (ocrCard delay r)) D
      (fun outcome g' s' => s'.quiet ≤ delay ∧
        Handshake r 30 14 29 outcome (-1) g' (polls s'.sent)) g s := by
  induction trials generalizing n g s with
  | zero =>
      -- All trials are used up, so no poll has the bit.
      refine ⟨h.quiet, fun i hi => ?_, fun _ => ⟨rfl, rfl⟩⟩
      have hle := hi.le
      have hset := hi.set
      rw [hbusy i hi.pos (by omega)] at hset
      cases hset
  | succ trials ih =>
      rw [voltageLoop]
      refine wp_seq (wp_sendCommandSpecific hfuel h) ?_
      rintro status g₁ s₁ ⟨rfl, hquiet₁, arg, sent, hsent, hpolls⟩
      simp only [ne_eq, not_true_eq_false, if_false]
      refine wp_seq (wp_cmdResp3Error hfuel hquiet₁ hsent hpolls) ?_
      rintro status g₂ s₂ ⟨h₂, ⟨hclear, rfl⟩ | ⟨hset, rfl, hvoltage, hversion⟩⟩
      · -- Still busy: one more word without the bit.
        simp only [show ¬(1 : Int) < 0 by decide, if_false, if_true]
        refine wp_seq (wp_aside (emits_perform trivial) h₂) ?_
        intro _ g₃ s₃ h₃
        refine ih (by omega) ?_ h₃
        intro j hj hle
        rcases Nat.lt_or_eq_of_le hle with hlt | rfl
        · exact hbusy j hj (by omega)
        · exact hclear
      -- The words before were all without the bit.
      · have hfirst : FirstWith r 30 (n + 1) :=
          { pos := by omega
            le := by omega
            set := hset
            first := fun j hj hlt => hbusy j hj (by omega) }
        refine ⟨h₂.quiet, fun i hi => ?_, fun hnone => absurd hfirst (hnone _)⟩
        have hi' : i = n + 1 := hi.unique hfirst
        subst hi'
        exact ⟨rfl, h₂.polls, hvoltage, hversion⟩

/-! ## `init_sd` -/

theorem wp_initSdVoltage (hfuel : delay < fuel) :
    (initSdVoltage fuel).wp (answeringCard (ocrCard delay r)) D
      (fun outcome g' s' => s'.quiet ≤ delay ∧ (0 < polls s'.sent →
        Handshake r 30 14 29 outcome (-1) g' (polls s'.sent))) g TalkState.start := by
  have hstart : Polled delay 0 TalkState.start := ⟨rfl, Nat.zero_le _⟩
  unfold initSdVoltage
  refine wp_seq (wp_initSdStart hfuel hstart) ?_
  intro outcome g₁ s₁ h₁
  cases outcome with
  | some code =>
      refine ⟨h₁.quiet, fun hpos => ?_⟩
      -- The start failed before any `ACMD41`.
      have hzero : polls s₁.sent = 0 := h₁.polls
      rw [hzero] at hpos
      cases hpos
  | none =>
      refine wp_mono (wp_voltageLoop hfuel sdMaxVoltTrial (Nat.zero_add _) ?_ h₁) ?_
      · intro j hj hle
        omega
      · rintro outcome g₂ s₂ ⟨hquiet, hhandshake⟩
        exact ⟨hquiet, fun _ => hhandshake⟩

theorem wp_returns {α : Type} {p : SdProc α} (hp : p.Emits Mute False) :
    p.wp (answeringCard (ocrCard delay r)) D (fun _ _ _ => True) g s :=
  wp_frame (I := fun _ => True) hp (fun _ _ _ _ => ⟨trivial, fun _ _ _ => trivial⟩)
    (fun _ hcut => hcut.elim) trivial

/-- After the loop every command is answered, too. -/
theorem wp_identifySd (hfuel : delay < fuel) :
    (identifySd fuel).wp (answeringCard (ocrCard delay r)) D (fun _ _ _ => True) g s := by
  have hinactive : (setInactiveState >>= fun _ => pure (-1 : Int)).Emits Mute False :=
    emits_setInactiveState.bind (fun _ => emits_pure _)
  unfold identifySd cmdResp2Error cmdResp6Error
  simp only [wp_bind, wp_sendCommandSdio]
  refine wp_mono (wp_answerStatus hfuel (Nat.le_refl delay)) ?_
  intro status g₁ s₁ _
  refine wp_mono (Q := fun _ _ _ => True) (wp_returns ?_) ?_
  · refine emits_ite (emits_pure _) (emits_globals.bind fun g => ?_)
    refine emits_sdioReadLongResp.bind fun words => ?_
    exact (emits_assign _).bind (fun _ => emits_pure _)
  · intro status g₂ s₂ _
    -- Without an answer to `CMD2`, or to `CMD3`, the card is made inactive.
    split
    · exact wp_returns hinactive
    · simp only [wp_bind, wp_sendCommandSdio]
      refine wp_mono (wp_answerStatus hfuel (Nat.le_refl delay)) ?_
      intro status g₃ s₃ _
      refine wp_mono (Q := fun _ _ _ => True) (wp_returns ?_) ?_
      · refine emits_ite (emits_pure _) ((emits_perform trivial).bind fun response => ?_)
        refine (emits_assign _).bind fun _ => emits_ite (emits_pure _) ?_
        exact (emits_assign _).bind (fun _ => emits_pure _)
      · intro status g₄ s₄ _
        split
        · exact wp_returns hinactive
        · trivial

theorem wp_initSd (hfuel : delay < fuel) :
    (initSd fuel).wp (answeringCard (ocrCard delay r)) (fun _ => False) (fun _ _ _ => True) g
      TalkState.start := by
  unfold initSd
  refine wp_seq (wp_initSdVoltage hfuel) ?_
  intro outcome g₁ s₁ _
  cases outcome with
  | some code => trivial
  | none => exact wp_identifySd hfuel

/-- `init_sd` returns.  In every run of it that gets to the polling loop, cut where the loop ends,
the handshake is the one of the card specification exactly when reading each field of the words
one bit too low makes no difference. -/
theorem power_up_iff (r : Nat → BitVec 32) {delay fuel : Nat} (hfuel : delay < fuel)
    (g : SdGlobals) :
    (∀ s', ¬Reaches (answeringCard (ocrCard delay r)) (initSd fuel g) TalkState.start .spin s') ∧
    ∀ outcome g₁ s₁ status g₂ s₂,
      Runs (answeringCard (ocrCard delay r)) (initSdVoltage fuel g) TalkState.start
        (outcome, g₁) s₁ →
      Runs (answeringCard (ocrCard delay r)) (outcome.elim (identifySd fuel) pure g₁) s₁
        (status, g₂) s₂ →
      0 < polls s₁.sent →
      Runs (answeringCard (ocrCard delay r)) (initSd fuel g) TalkState.start (status, g₂) s₂ ∧
      (Handshake r 31 15 30 outcome status g₁ (polls s₁.sent) ↔ ReadingsAgree r) := by
  constructor
  · intro s' hspin
    exact Prog.wp_not_spin (wp_initSd hfuel) hspin
  · intro outcome g₁ s₁ status g₂ s₂ hvoltage hrest hpolls
    constructor
    · refine Proc.runs_bind_iff.2 ⟨outcome, g₁, s₁, hvoltage, ?_⟩
      cases outcome with
      | some code => exact hrest
      | none => exact hrest
    · refine Handshake.iff_readingsAgree ?_
      rcases wp_runs (D := fun _ => True) (wp_initSdVoltage hfuel) hvoltage with ⟨_, hcode⟩
      refine ⟨(hcode hpolls).leaves, fun hnone => ?_⟩
      rcases (hcode hpolls).fails hnone with ⟨rfl, _⟩
      -- The loop was left by `return -1`, which is what `init_sd` returns.
      cases hrest
      exact ⟨rfl, rfl⟩

/-! ## Two cards -/

/-- A card that answers at once and without errors. -/
def answeringOcr (r : Nat → BitVec 32) (s : TalkState) : (e : SdioEvent) → e.Response × TalkState
  | .sta _ => (sdioStaCmdrend ||| sdioStaCmdsent, s)
  | .read (.resp 0) =>
      (match s.sent with
        | [] => 0#32
        | c :: _ =>
            if c.word = opCondWord then r (polls s.sent)
            else if c.word = appCmdWord then 0#32
            else if c.word = commandWord cmdSendIfCond sdioCmdShortResp then sdVhcCheckPatern
            else 0#32, s)
  | .read .power => (sdioPwrctrlOn, s)
  | .read _ => (0#32, s)
  | .write .arg v => ((), { s with arg := v })
  | .write .cmd w => ((), { s with sent := ⟨w, s.arg⟩ :: s.sent, quiet := 0 })
  | .write _ _ => ((), s)
  | .load _ => (0#32, s)
  | .store _ _ => ((), s)
  | .memcpy _ _ _ => ((), s)
  | .delayTimer _ => ((), s)
  | .indeterminate => (0#32, s)
  | .setGpioConf _ _ => ((), s)
  | .enableAndResetRcc _ _ => ((), s)
  | .getPll48clkFreq => (48000000#32, s)

theorem answeringOcr_allowed (r : Nat → BitVec 32) (s : TalkState) (e : SdioEvent) :
    (answeringCard (ocrCard 0 r)).step s e (answeringOcr r s e).1 (answeringOcr r s e).2 := by
  cases e with
  | sta site =>
      cases site with
      | cmdResp =>
          have hflags : hasFlag (sdioStaCmdrend ||| sdioStaCmdsent) responseFlags = true := by decide
          have htimeout : hasFlag (sdioStaCmdrend ||| sdioStaCmdsent) sdioStaCtimeout = false := by
            decide
          have hcrc : hasFlag (sdioStaCmdrend ||| sdioStaCmdsent) sdioStaCcrcfail = false := by
            decide
          simp only [answeringCard, answeringOcr, hflags, if_true, and_true]
          cases s.sent with
          | nil => trivial
          | cons c sent => simp [ocrCard, htimeout, hcrc]
      | _ => rfl
  | read reg =>
      cases reg with
      | resp i =>
          by_cases hi : i = 0
          · subst hi
            refine ⟨?_, rfl⟩
            cases hsent : s.sent with
            | nil => trivial
            | cons c sent =>
                -- At `ACMD41` the word of the sequence, at `CMD55` an R1 without an error.
                have hne : opCondWord ≠ appCmdWord := by decide
                have hzero : r1Error 0#32 = 0 := by decide
                by_cases happ : c.word = appCmdWord
                · simp [answeringOcr, ocrCard, hsent, happ, hne.symm, hzero]
                · by_cases hop : c.word = opCondWord
                  · simp [answeringOcr, ocrCard, hsent, hop, hne]
                  · simp [answeringOcr, ocrCard, hsent, happ, hop]
          · have hothers : ∀ i : Fin 4, i ≠ 0 → i = 1 ∨ i = 2 ∨ i = 3 := by decide
            rcases hothers i hi with rfl | rfl | rfl
            · rfl
            · rfl
            · rfl
      | _ => rfl
  | write reg v =>
      cases reg <;> rfl
  | _ => rfl

/-- The word of a high-capacity card that is ready, and one on which the two readings agree. -/
def ocrOfSdhc (_ : Nat) : BitVec 32 := 0xC0FF8000#32
def ocrOfAgreeing (_ : Nat) : BitVec 32 := 0xE0FFC000#32

/-- A run of `init_sd` on this card, cut at the end of the polling loop. -/
theorem exec_initSd (r : Nat → BitVec 32) (n : Nat) (version : CardVersion)
    (h : (do
      let x ← (initSdVoltage 1 blankGlobals).exec (answeringOcr r) TalkState.start
      let _ ← (x.1.1.elim (identifySd 1) pure x.1.2).exec (answeringOcr r) x.2
      return (x.1.1, polls x.2.sent, x.1.2.sd.version)) = some (none, n, version)) :
    ∃ g₁ s₁ status g₂ s₂,
      Runs (answeringCard (ocrCard 0 r)) (initSdVoltage 1 blankGlobals) TalkState.start
        (none, g₁) s₁ ∧
      Runs (answeringCard (ocrCard 0 r)) (identifySd 1 g₁) s₁ (status, g₂) s₂ ∧
      polls s₁.sent = n ∧ g₁.sd.version = version := by
  rcases Option.bind_eq_some_iff.1 h with ⟨⟨⟨outcome, g₁⟩, s₁⟩, hvoltage, h⟩
  rcases Option.bind_eq_some_iff.1 h with ⟨⟨⟨status, g₂⟩, s₂⟩, hrest, h⟩
  obtain ⟨rfl, rfl, rfl⟩ : outcome = none ∧ polls s₁.sent = n ∧ g₁.sd.version = version := by
    simpa using h
  exact ⟨g₁, s₁, status, g₂, s₂, Prog.exec_runs (answeringOcr_allowed r) hvoltage,
    Prog.exec_runs (answeringOcr_allowed r) hrest, rfl, rfl⟩

/-- A high-capacity card is taken for `CARD_SDSC`. -/
theorem sdhc_card_taken_for_sdsc :
    ∃ outcome g₁ s₁ status g₂ s₂,
      Runs (answeringCard (ocrCard 0 ocrOfSdhc)) (initSdVoltage 1 blankGlobals) TalkState.start
        (outcome, g₁) s₁ ∧
      Runs (answeringCard (ocrCard 0 ocrOfSdhc)) (outcome.elim (identifySd 1) pure g₁) s₁
        (status, g₂) s₂ ∧
      0 < polls s₁.sent ∧
      ¬Handshake ocrOfSdhc 31 15 30 outcome status g₁ (polls s₁.sent) := by
  rcases exec_initSd ocrOfSdhc 1 .sdsc (by decide +kernel) with
    ⟨g₁, s₁, status, g₂, s₂, hvoltage, hrest, hpolls, hversion⟩
  refine ⟨none, g₁, s₁, status, g₂, s₂, hvoltage, hrest, hpolls ▸ Nat.one_pos, fun h => ?_⟩
  have hfirst : FirstWith ocrOfSdhc 31 1 :=
    { pos := Nat.le_refl 1
      le := by decide
      set := by decide
      first := fun j hj hlt => absurd hlt (Nat.not_lt.2 hj) }
  rcases h.leaves 1 hfirst with ⟨_, _, _, hclass⟩
  rw [hversion] at hclass
  cases hclass

/-- A word on which the two readings agree. -/
theorem power_up_iff_agreeing :
    ∃ g₁ s₁ status g₂ s₂,
      Runs (answeringCard (ocrCard 0 ocrOfAgreeing)) (initSdVoltage 1 blankGlobals)
        TalkState.start (none, g₁) s₁ ∧
      Runs (answeringCard (ocrCard 0 ocrOfAgreeing)) (initSd 1 blankGlobals) TalkState.start
        (status, g₂) s₂ ∧
      (Handshake ocrOfAgreeing 31 15 30 none status g₁ (polls s₁.sent) ↔
        ReadingsAgree ocrOfAgreeing) := by
  rcases exec_initSd ocrOfAgreeing 1 .sdxc (by decide +kernel) with
    ⟨g₁, s₁, status, g₂, s₂, hvoltage, hrest, hpolls, _⟩
  have hpos : 0 < polls s₁.sent := hpolls ▸ Nat.one_pos
  have hiff := (power_up_iff ocrOfAgreeing Nat.one_pos blankGlobals).2 none g₁ s₁ status g₂ s₂
    hvoltage hrest hpos
  exact ⟨g₁, s₁, status, g₂, s₂, hvoltage, hiff⟩

end Driver
end SdioFat32
