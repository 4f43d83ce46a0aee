import SdioFat32.Driver.Transfer

/-!
# Conversation — what outlasts a command and its answer

The functions that send `CMD12` or `CMD13` and treat the answer clear the command flags by reading
`ICR` and writing it back.  Whatever survives that, and the other events of a conversation,
survives each of these functions, under any environment.
-/

namespace SdioFat32
namespace Driver

open Effects Proc

/-- Reads of `STA`, and the events of a conversation, but for the writes to `ICR`. -/
def Remark (cmds : BitVec 32 → Prop) : SdioEvent → Prop
  | .sta _ => True
  | .read .fifo => False
  | .write .icr _ => False
  | e => Dialogue cmds e

/-- The commands that stop a transfer and ask for the status. -/
def StatusCommand (w : BitVec 32) : Prop :=
  w = commandWord cmdStopTransmission sdioCmdShortResp ∨
    w = commandWord cmdSendStatus sdioCmdShortResp

variable {σ α : Type} {env : Env SdioEvent SdioEvent.Response σ} {D I J : σ → Prop}
  {cmds : BitVec 32 → Prop} {fuel : Nat} {g : SdGlobals} {s : σ} {cs : CardStatus}

/-- `I` survives a conversation. -/
structure Survives (cmds : BitVec 32 → Prop) (env : Env SdioEvent SdioEvent.Response σ)
    (D I : σ → Prop) : Prop where
  remark : ∀ s e, I s → Remark cmds e → env.req s e ∧ ∀ r s', env.step s e r s' → I s'
  clears : ∀ g s, I s →
    (clearFlagSdio sdioMaskStaticCmdFlags).wp env D (fun _ _ s' => I s') g s
  cut : ∀ s, I s → D s

namespace Survives

theorem remarks (h : Survives cmds env D I) {p : SdProc α} (hp : p.Emits (Remark cmds) True)
    (hs : I s) : p.wp env D (fun _ _ s' => I s') g s :=
  wp_frame hp h.remark (fun s _ hs => h.cut s hs) hs

theorem wp_answerStatus (h : Survives cmds env D I) (hs : I s) :
    (answerStatus fuel sdioMaskStaticCmdFlags sdioMaskStaticCmdFlags).wp env D
      (fun _ _ s' => I s') g s := by
  have hwait : (waitResponse fuel).Emits (Remark cmds) True := by
    refine emits_iter (fun _ => (emits_perform trivial).bind ?_) fuel ()
    intro status
    exact emits_ite (emits_pure _) (emits_pure _)
  have hclear : ∀ (code : Int) (g : SdGlobals) (s : σ), I s →
      (clearFlagSdio sdioMaskStaticCmdFlags >>= fun _ => pure code).wp env D
        (fun _ _ s' => I s') g s := by
    intro code g s hs
    exact wp_seq (h.clears g s hs) fun _ _ _ hs' => hs'
  unfold answerStatus
  refine wp_seq (h.remarks hwait hs) ?_
  intro status g₁ s₁ h₁
  -- The three ends clear the same flags.
  split
  · exact hclear _ g₁ s₁ h₁
  · split
    · exact hclear _ g₁ s₁ h₁
    · exact hclear _ g₁ s₁ h₁

theorem wp_cmdResp1Error (h : Survives cmds env D I) (hs : I s) :
    (cmdResp1Error fuel cs).wp env D (fun _ _ s' => I s') g s := by
  unfold cmdResp1Error
  refine wp_seq (h.wp_answerStatus hs) ?_
  intro status g₁ s₁ h₁
  split
  · exact h₁
  · refine wp_seq (h.remarks (emits_perform trivial) h₁) ?_
    intro response g₂ s₂ h₂
    exact h₂

theorem wp_sendCommandSdio (h : Survives cmds env D I) {command arg formatResp : BitVec 32}
    (hcommand : cmds (commandWord command formatResp)) (hs : I s) :
    (sendCommandSdio command arg formatResp).wp env D (fun _ _ s' => I s') g s :=
  h.remarks ((emits_perform trivial).bind fun _ => emits_perform hcommand) hs

theorem wp_sendStatusSd (h : Survives StatusCommand env D I) (hs : I s) :
    (sendStatusSd fuel cs).wp env D (fun _ _ s' => I s') g s := by
  unfold sendStatusSd
  rw [wp_bind, wp_globals]
  refine wp_seq (h.wp_sendCommandSdio (Or.inr rfl) hs) ?_
  intro _ g₁ s₁ h₁
  refine wp_seq (h.wp_cmdResp1Error h₁) ?_
  rintro ⟨status, cs'⟩ g₂ s₂ h₂
  dsimp only
  split
  · exact h₂
  · exact h₂

theorem wp_waitCardReady (h : Survives StatusCommand env D I) (hs : I s) :
    (waitCardReady fuel).wp env D (fun _ _ s' => I s') g s := by
  have hloop : ∀ (attempts : Nat) (cs : CardStatus) (g : SdGlobals) (s : σ), I s →
      (waitCardReadyLoop fuel attempts cs).wp env D (fun _ _ s' => I s') g s := by
    intro attempts
    induction attempts with
    | zero =>
        intro cs g s hs
        exact hs
    | succ attempts ih =>
        intro cs g s hs
        unfold waitCardReadyLoop
        refine wp_seq (h.wp_sendStatusSd hs) ?_
        rintro ⟨status, cs'⟩ g₁ s₁ h₁
        dsimp only
        split
        · exact h₁
        · rw [wp_bind, wp_globals]
          split
          · exact h₁
          · refine wp_seq (h.remarks (emits_perform trivial) h₁) ?_
            intro _ g₂ s₂ h₂
            exact ih cs' g₂ s₂ h₂
  exact hloop 500 0#32 g s hs

theorem wp_cmdResp1bError (h : Survives StatusCommand env D I) (hs : I s) :
    (cmdResp1bError fuel cs).wp env D (fun _ _ s' => I s') g s := by
  unfold cmdResp1bError
  refine wp_seq (h.wp_cmdResp1Error hs) ?_
  rintro ⟨status, cs'⟩ g₁ s₁ h₁
  dsimp only
  split
  · exact h₁
  · split
    · exact h₁
    · refine wp_seq (h.wp_waitCardReady h₁) ?_
      intro status' g₂ s₂ h₂
      exact h₂

/-- A stop that fails has cleared the data flags. -/
theorem wp_stopTransmission (h : Survives StatusCommand env D I)
    (hclear : ∀ g s, I s →
      (clearFlagsSdio sdioMaskStaticDataFlags).wp env D (fun _ _ s' => J s') g s) (hs : I s) :
    (stopTransmission fuel).wp env D
      (fun status _ s' => (status = 0 ∧ I s') ∨ (status ≠ 0 ∧ J s')) g s := by
  unfold stopTransmission
  refine wp_seq (h.remarks (emits_perform trivial) hs) ?_
  intro sta g₁ s₁ h₁
  split
  · refine wp_seq (h.wp_sendCommandSdio (Or.inl rfl) h₁) ?_
    intro _ g₂ s₂ h₂
    refine wp_seq (h.wp_cmdResp1bError h₂) ?_
    rintro ⟨status, cs'⟩ g₃ s₃ h₃
    dsimp only
    split
    · refine wp_seq (hclear g₃ s₃ h₃) ?_
      intro _ g₄ s₄ h₄
      have hfailed : (-1 : Int) ≠ 0 := by decide
      exact Or.inr ⟨hfailed, h₄⟩
    · exact Or.inl ⟨rfl, h₃⟩
  · exact Or.inl ⟨rfl, h₁⟩

end Survives

end Driver
end SdioFat32
