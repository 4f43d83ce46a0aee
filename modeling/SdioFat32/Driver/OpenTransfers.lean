import SdioFat32.Driver.Transfer

/-!
# OpenTransfers — multi-block transfers and the commands that close them

An accepted `CMD18` or `CMD25` stays open until `CMD12` is sent.  `CMD12` is sent only if one read
of `STA` after the polling loop shows `DATAEND`, so a loop that an error ends leaves the transfer
open.  `Balanced` says exactly that, and every multi-block function keeps it.
-/

namespace SdioFat32
namespace Driver

open Effects Proc

/-! ## Watching the commands -/

def stopWord : BitVec 32 := commandWord cmdStopTransmission sdioCmdShortResp

/-- `CMD18` and `CMD25`. -/
def isMultiCommand (word : BitVec 32) : Bool :=
  word = commandWord cmdReadMultipleBlock sdioCmdShortResp ||
    word = commandWord cmdWriteMultipleBlock sdioCmdShortResp

/-- A command that starts a transfer. -/
def isTransferCommand (word : BitVec 32) : Bool :=
  isMultiCommand word || word = commandWord cmdReadSingleBlock sdioCmdShortResp ||
    word = commandWord cmdWriteBlock sdioCmdShortResp

structure WatchState where
  /-- The last word written to `CMD`. -/
  command : BitVec 32
  /-- A multi-block command was accepted and `CMD12` was not sent since. -/
  opened : Bool
  /-- A transfer command was sent while a transfer was open. -/
  clash : Bool
  /-- What the tests of `DATAEND` have read, the last value first. -/
  dataend : List (BitVec 32)

def WatchState.next (s : WatchState) : (e : SdioEvent) → e.Response → WatchState
  | .write .cmd w, _ =>
      { s with
        command := w
        opened := s.opened && w != stopWord
        clash := s.clash || s.opened && isTransferCommand w }
  | .read (.resp 0), (w : BitVec 32) =>
      if isMultiCommand s.command = true ∧ r1Error w = 0 then { s with opened := true } else s
  | .sta (.exitTest flag), (w : BitVec 32) =>
      if flag = sdioStaDataend then { s with dataend := w :: s.dataend } else s
  | _, _ => s

/-- The peripheral and the card may respond in any way. -/
def watch : Env SdioEvent SdioEvent.Response WatchState where
  step s e r s' := s' = s.next e r

/-- Something is left open, or was when a transfer command was sent, exactly if some test of
`DATAEND` did not see it. -/
def Balanced (s : WatchState) : Prop :=
  (s.opened || s.clash) = s.dataend.any fun w => !hasFlag w sdioStaDataend

theorem Balanced.iff {s : WatchState} (h : Balanced s) :
    (s.opened = false ∧ s.clash = false) ↔ ∀ w ∈ s.dataend, hasFlag w sdioStaDataend = true := by
  rw [← Bool.or_eq_false_iff, h]
  simp

variable {fuel : Nat} {g : SdGlobals} {s s' : WatchState}

/-! ## Events without effect -/

/-- Events that are not watched. -/
def Unwatched : SdioEvent → Prop
  | .write .cmd _ => False
  | .read (.resp _) => False
  | .sta (.exitTest _) => False
  | _ => True

theorem Unwatched.next {e : SdioEvent} {r : e.Response} (he : Unwatched e) : s.next e r = s := by
  unfold WatchState.next
  split
  · exact he.elim
  · exact he.elim
  · exact he.elim
  · rfl

theorem wp_unwatched {α : Type} {p : SdProc α} (hp : p.Emits Unwatched True) :
    p.wp watch (fun _ => True) (fun _ _ s' => s' = s) g s :=
  wp_frame (I := fun s' => s' = s) hp
    (fun _ _ hs he => ⟨trivial, fun _ _ hstep => (hstep.trans he.next).trans hs⟩)
    (fun _ _ _ => trivial) rfl

/-- Between the answer to a data command and the next one: no command but `CMD13`, and no test of
`DATAEND`. -/
def Calm : SdioEvent → Prop
  | .write .cmd w => w = commandWord cmdSendStatus sdioCmdShortResp
  | .sta (.exitTest flag) => flag ≠ sdioStaDataend
  | _ => True

/-- An answer to the last command does not open a transfer that is not open. -/
def Answered (s : WatchState) : Prop :=
  s.opened = true ∨ isMultiCommand s.command = false

structure SameTransfer (s s' : WatchState) : Prop where
  opened : s'.opened = s.opened
  clash : s'.clash = s.clash
  dataend : s'.dataend = s.dataend
  answered : Answered s'

theorem SameTransfer.balanced (h : SameTransfer s s') (hs : Balanced s) : Balanced s' := by
  unfold Balanced
  rw [h.opened, h.clash, h.dataend]
  exact hs

theorem SameTransfer.next {e : SdioEvent} {r : e.Response} (h : SameTransfer s s') (he : Calm e) :
    SameTransfer s (s'.next e r) := by
  unfold WatchState.next
  split
  · -- `CMD13` neither opens nor closes, and its answer is not that of a multi-block command.
    have hquery : isTransferCommand (commandWord cmdSendStatus sdioCmdShortResp) = false ∧
        isMultiCommand (commandWord cmdSendStatus sdioCmdShortResp) = false ∧
        commandWord cmdSendStatus sdioCmdShortResp ≠ stopWord := by decide
    have he' := he
    subst he'
    refine ⟨?_, ?_, h.dataend, Or.inr hquery.2.1⟩
    · simp [hquery.2.2, h.opened]
    · simp [hquery.1, h.clash]
  · split
    · rename_i hmulti
      -- An answer that would open a transfer comes only while one is open.
      have hopen : s'.opened = true := by
        rcases h.answered with hopen | hnot
        · exact hopen
        · exact absurd (hnot.symm.trans hmulti.1) Bool.false_ne_true
      exact ⟨hopen ▸ h.opened, h.clash, h.dataend, Or.inl rfl⟩
    · exact h
  · rename_i flag w
    have hne : flag ≠ sdioStaDataend := he
    rw [if_neg hne]
    exact h
  · exact h

theorem wp_calm {α : Type} {p : SdProc α} (hp : p.Emits Calm True) (h : Answered s) :
    p.wp watch (fun _ => True) (fun _ _ s' => SameTransfer s s') g s := by
  refine wp_frame hp (fun s₁ e hs he => ⟨trivial, fun r s₂ hstep => ?_⟩) (fun _ _ _ => trivial)
    ⟨rfl, rfl, rfl, h⟩
  have hnext : s₂ = s₁.next e r := hstep
  subst hnext
  exact hs.next he

theorem Dialogue.calm {cmds : BitVec 32 → Prop} {e : SdioEvent} (he : Dialogue cmds e)
    (hcmds : ∀ w, cmds w → w = commandWord cmdSendStatus sdioCmdShortResp) : Calm e := by
  cases e with
  | sta site =>
      cases site with
      | cmdResp => trivial
      | _ => exact he.elim
  | write reg v =>
      cases reg with
      | cmd => exact hcmds v he
      | _ => trivial
  | _ => trivial

theorem Polling.calm {e : SdioEvent} (he : Polling e) : Calm e := by
  cases e with
  | sta site =>
      cases site with
      | exitTest flag => exact he.elim
      | _ => trivial
  | write reg v =>
      cases reg with
      | cmd => exact he.elim
      | _ => trivial
  | _ => trivial

theorem Waiting.unwatched {e : SdioEvent} (he : Waiting e) : Unwatched e := by
  cases e with
  | sta site =>
      cases site with
      | exitTest flag => exact he.elim
      | _ => trivial
  | read reg =>
      cases reg with
      | resp i => exact he.elim
      | _ => trivial
  | write reg v =>
      cases reg with
      | cmd => exact he.elim
      | _ => trivial
  | _ => trivial

/-- The tests after the loop, other than that of `DATAEND`. -/
theorem emits_exitTests_calm {ts : List (BitVec 32 × Int)}
    (hts : ∀ t ∈ ts, t.1 ≠ sdioStaDataend) : (exitTests ts).Emits Calm True := by
  induction ts with
  | nil => exact emits_pure _
  | cons t ts ih =>
      rcases t with ⟨flag, error⟩
      rw [List.forall_mem_cons] at hts
      have hsta : Calm (.sta (.exitTest flag)) := hts.1
      refine (emits_perform hsta).bind fun sta => emits_ite ?_ (ih hts.2)
      exact (emits_perform trivial).bind fun _ => emits_pure _

theorem emits_waitCardReady_calm : (waitCardReady fuel).Emits Calm True :=
  (emits_waitCardReady rfl).mono fun _ he => he.calm fun _ => Eq.symm

theorem emits_txFinish_calm : (txFinish fuel).Emits Calm True := by
  refine (emits_exitTests_calm (by decide)).bind fun status => emits_ite (emits_pure _) ?_
  exact (emits_perform trivial).bind fun _ => emits_waitCardReady_calm

/-! ## The parts of a transfer -/

/-- A multi-block command is out; a transfer that was open before is noted. -/
structure Requested (s : WatchState) : Prop where
  command : isMultiCommand s.command = true
  clash : s.clash = s.dataend.any fun w => !hasFlag w sdioStaDataend
  opened : s.opened = true → s.clash = true

/-- A transfer is open, and nothing else is amiss but what is noted. -/
structure Opened (s : WatchState) : Prop where
  opened : s.opened = true
  clash : s.clash = s.dataend.any fun w => !hasFlag w sdioStaDataend

theorem Requested.balanced (h : Requested s) : Balanced s := by
  have hopened := h.opened
  unfold Balanced
  rw [← h.clash]
  cases hs : s.opened with
  | false => rfl
  | true => simp [hopened hs]

theorem Opened.same (h : Opened s) (hsame : SameTransfer s s') : Opened s' where
  opened := hsame.opened.trans h.opened
  clash := by
    rw [hsame.clash, hsame.dataend]
    exact h.clash

theorem wp_multiCommand {command arg : BitVec 32}
    (hmulti : isMultiCommand (commandWord command sdioCmdShortResp) = true) (h : Balanced s) :
    (sendCommandSdio command arg sdioCmdShortResp).wp watch (fun _ => True)
      (fun _ _ s' => Requested s') g s := by
  unfold sendCommandSdio
  refine wp_seq (wp_unwatched (emits_perform trivial)) ?_
  rintro _ g₁ s₁ rfl
  refine ⟨trivial, fun _ s₂ hstep => ?_⟩
  have htransfer : isTransferCommand (commandWord command sdioCmdShortResp) = true := by
    simp [isTransferCommand, hmulti]
  have hnext : s₂ = { s₁ with
      command := commandWord command sdioCmdShortResp
      opened := s₁.opened && commandWord command sdioCmdShortResp != stopWord
      clash := s₁.clash || s₁.opened && isTransferCommand (commandWord command sdioCmdShortResp) } :=
    hstep
  subst hnext
  -- A transfer that was open becomes a clash, so the sum of both is what it was.
  rw [htransfer, Bool.and_true, Bool.or_comm]
  refine ⟨hmulti, h, fun hopened => ?_⟩
  rw [Bool.and_eq_true] at hopened
  exact Bool.or_eq_true_iff.2 (Or.inl hopened.1)

/-- An error-free answer opens the transfer; any other leaves everything as it is. -/
theorem wp_multiAnswer {cs : CardStatus} (h : Requested s) :
    (cmdResp1Error fuel cs).wp watch (fun _ => True)
      (fun r _ s' => (r.1 = 0 ∧ Opened s') ∨ (r.1 ≠ 0 ∧ s' = s)) g s := by
  unfold cmdResp1Error
  refine wp_seq (wp_unwatched (emits_answerStatus.mono fun _ he => he.unwatched)) ?_
  rintro status g₁ s₁ rfl
  split
  · rename_i hne
    exact Or.inr ⟨hne, rfl⟩
  · refine wp_bind.2 (wp_perform.2 ⟨trivial, fun w s₂ hstep => ?_⟩)
    have hnext : s₂ = s₁.next (.read (.resp 0)) w := hstep
    subst hnext
    by_cases hr1 : r1Error w = 0
    · refine Or.inl ⟨hr1, ?_⟩
      have hopens : s₁.next (.read (.resp 0)) w = { s₁ with opened := true } :=
        if_pos ⟨h.command, hr1⟩
      rw [hopens]
      exact ⟨rfl, h.clash⟩
    · exact Or.inr ⟨hr1, if_neg fun hboth => hr1 hboth.2⟩

/-- After the test of `DATAEND` the books balance, whatever it read. -/
theorem wp_stopTransmission_watch (h : Opened s) :
    (stopTransmission fuel).wp watch (fun _ => True)
      (fun _ _ s' => Balanced s' ∧ Answered s') g s := by
  unfold stopTransmission
  refine wp_bind.2 (wp_perform.2 ⟨trivial, fun (w : BitVec 32) s₁ hstep => ?_⟩)
  have hnext : s₁ = { s with dataend := w :: s.dataend } := hstep
  subst hnext
  split
  · rename_i hshown
    -- `CMD12` closes the transfer, and the new entry shows `DATAEND`.
    have hclosed : ∀ {g : SdGlobals},
        (sendCommandSdio cmdStopTransmission 0#32 sdioCmdShortResp).wp watch (fun _ => True)
          (fun _ _ s' => Balanced s' ∧ Answered s') g { s with dataend := w :: s.dataend } := by
      intro g
      refine wp_seq (wp_unwatched (emits_perform trivial)) ?_
      rintro _ g₂ s₂ rfl
      refine ⟨trivial, fun _ s₃ hstep => ?_⟩
      have hnext : s₃ =
          { command := stopWord
            opened := s.opened && stopWord != stopWord
            clash := s.clash || s.opened && isTransferCommand stopWord
            dataend := w :: s.dataend } := hstep
      have hstop : isTransferCommand stopWord = false ∧ isMultiCommand stopWord = false := by decide
      subst hnext
      refine ⟨?_, Or.inr hstop.2⟩
      unfold Balanced
      simp [hstop.1, hshown, h.clash]
    refine wp_seq hclosed ?_
    rintro _ g₂ s₂ ⟨hbalanced, hanswered⟩
    refine wp_seq (wp_calm ((emits_cmdResp1bError rfl).mono fun _ he => he.calm fun _ => Eq.symm)
      hanswered) ?_
    rintro ⟨status, cs⟩ g₃ s₃ hsame
    dsimp only
    split
    · refine wp_seq (wp_calm (emits_perform trivial) hsame.answered) ?_
      intro _ g₄ s₄ hsame'
      exact ⟨hsame'.balanced (hsame.balanced hbalanced), hsame'.answered⟩
    · exact ⟨hsame.balanced hbalanced, hsame.answered⟩
  · rename_i hmissed
    -- No `CMD12`: the transfer stays open, and the new entry misses `DATAEND`.
    refine ⟨?_, Or.inl h.opened⟩
    unfold Balanced
    simp [h.opened, hmissed]

/-! ## The block functions -/

section Functions

variable {data buffer count address timeout : BitVec 32}

theorem emits_arm_unwatched {control length : BitVec 32} :
    (sdioConfigData control length timeout).Emits Unwatched True :=
  (emits_perform trivial).bind fun _ => (emits_perform trivial).bind fun _ => emits_perform trivial

/-- The two multi-block functions start alike: once the command is answered, the transfer is open,
or the command was not accepted and the books balance. -/
theorem wp_openTransfer {control length command : BitVec 32}
    {rest : Int × CardStatus → SdProc Int} {Q : Int → SdGlobals → WatchState → Prop}
    (hmulti : isMultiCommand (commandWord command sdioCmdShortResp) = true) (h : Balanced s)
    (haccepted : ∀ cs g s, Opened s → (rest (0, cs)).wp watch (fun _ => True) Q g s)
    (hrefused : ∀ status cs g s, status ≠ 0 → Balanced s →
      (rest (status, cs)).wp watch (fun _ => True) Q g s) :
    (do
      let g ← globals
      writeReg .dctrl 0#32
      sdioConfigData control length timeout
      sendCommandSdio command (cardAddress g address) sdioCmdShortResp
      let r ← cmdResp1Error fuel 0#32
      rest r : SdProc Int).wp watch (fun _ => True) Q g s := by
  refine wp_seq (wp_unwatched emits_globals) ?_
  rintro g₀ g₁ _ rfl
  refine wp_seq (wp_unwatched (emits_perform trivial)) ?_
  rintro _ g₂ _ rfl
  refine wp_seq (wp_unwatched emits_arm_unwatched) ?_
  rintro _ g₃ _ rfl
  -- The command opens the transfer, and its answer decides whether it stays open.
  refine wp_seq (wp_multiCommand hmulti h) ?_
  intro _ g₄ s₄ h₄
  refine wp_seq (wp_multiAnswer h₄) ?_
  rintro ⟨status, cs⟩ g₅ s₅ (⟨hzero, h₅⟩ | ⟨hne, rfl⟩)
  · have hstatus : status = 0 := hzero
    subst hstatus
    exact haccepted cs g₅ s₅ h₅
  · exact hrefused status cs g₅ s₅ hne h₄.balanced

theorem wp_writeMultiBlockSd_watch (hcount : 2 ≤ count.toNat) (h : Balanced s) :
    (writeMultiBlockSd fuel data count address timeout).wp watch (fun _ => True)
      (fun _ _ s' => Balanced s') g s := by
  unfold writeMultiBlockSd
  simp only [if_neg (not_le_one hcount)]
  refine wp_openTransfer (by decide) h ?_ ?_
  · intro cs g₁ s₁ h₁
    refine wp_seq (wp_calm (emits_txLoop.mono fun _ he => he.calm) (Or.inl h₁.opened)) ?_
    intro _ g₂ s₂ hsame
    refine wp_seq (wp_stopTransmission_watch (h₁.same hsame)) ?_
    rintro status g₃ s₃ ⟨hbalanced, hanswered⟩
    split
    · exact hbalanced
    · exact wp_mono (wp_calm emits_txFinish_calm hanswered) fun _ _ _ hsame =>
        hsame.balanced hbalanced
  · intro status cs g₁ s₁ hne hbalanced
    dsimp only
    rw [if_pos hne]
    refine wp_seq (wp_unwatched (emits_perform trivial)) ?_
    rintro _ g₂ _ rfl
    exact hbalanced

theorem wp_readMultiBlockSd_watch (hcount : 2 ≤ count.toNat) (h : Balanced s) :
    (readMultiBlockSd fuel buffer count address timeout).wp watch (fun _ => True)
      (fun _ _ s' => Balanced s') g s := by
  unfold readMultiBlockSd
  simp only [if_neg (not_le_one hcount)]
  refine wp_openTransfer (by decide) h ?_ ?_
  · intro cs g₁ s₁ h₁
    refine wp_seq (wp_calm (emits_rxMulti.mono fun _ he => he.calm) (Or.inl h₁.opened)) ?_
    intro st g₂ s₂ hsame
    refine wp_seq (wp_stopTransmission_watch (h₁.same hsame)) ?_
    rintro status g₃ s₃ ⟨hbalanced, hanswered⟩
    split
    · exact hbalanced
    · refine wp_mono (wp_calm ?_ hanswered) fun _ _ _ hsame => hsame.balanced hbalanced
      -- What follows the test of `DATAEND` is calm.
      refine (emits_exitTests_calm (by decide)).bind fun status => emits_ite (emits_pure _) ?_
      refine Emits.bind (emits_rxMultiDrain.mono fun _ he => he.calm) fun _ => ?_
      refine (emits_perform trivial).bind fun _ => (emits_perform trivial).bind fun _ => ?_
      exact emits_waitCardReady_calm
  · intro status cs g₁ s₁ hne hbalanced
    dsimp only
    rw [if_pos hne]
    exact hbalanced

end Functions

end Driver
end SdioFat32
