import SdioFat32.Driver.Transcript

/-!
# ScriptedCard — a card whose answers are a given sequence

The `k`-th command is answered by `o k`, after at most `delay` empty polls.  What the driver takes
in is then a function of the sequence.
-/

namespace SdioFat32
namespace Driver

open Effects Proc

/-- The values of `STA` that end a wait with this answer. -/
def Answer.EndedBy (x : Answer) (sta : BitVec 32) : Prop :=
  match x with
  | .timeout => hasFlag sta sdioStaCtimeout = true
  | .crcFailure => hasFlag sta sdioStaCtimeout = false ∧ hasFlag sta sdioStaCcrcfail = true
  | .word _ => hasFlag sta sdioStaCtimeout = false ∧ hasFlag sta sdioStaCcrcfail = false

theorem Answer.EndedBy.answerOf_eq {x : Answer} {sta : BitVec 32} (h : x.EndedBy sta) :
    answerOf sta = match x with
      | .timeout => errorWaitTime
      | .crcFailure => errorCrc
      | .word _ => 0 := by
  cases x with
  | timeout => exact if_pos h
  | crcFailure =>
      rcases h with ⟨htimeout, hcrc⟩
      simp [answerOf, htimeout, hcrc]
  | word w =>
      rcases h with ⟨htimeout, hcrc⟩
      simp [answerOf, htimeout, hcrc]

def scriptedCard (delay : Nat) (o : Nat → Answer) : CardBehaviour where
  delay := delay
  ends sent sta := (o (sent.length - 1)).EndedBy sta
  answers sent w := ∀ w', o (sent.length - 1) = .word w' → w = w'

theorem Answer.exists_endedBy (x : Answer) :
    ∃ sta, hasFlag sta responseFlags = true ∧ x.EndedBy sta := by
  cases x with
  | timeout =>
      refine ⟨sdioStaCtimeout, by decide, ?_⟩
      show hasFlag sdioStaCtimeout sdioStaCtimeout = true
      decide
  | crcFailure =>
      refine ⟨sdioStaCcrcfail, by decide, ?_, ?_⟩ <;> decide
  | word w =>
      refine ⟨sdioStaCmdrend, by decide, ?_, ?_⟩ <;> decide

theorem Answer.exists_word (x : Answer) : ∃ w, ∀ w', x = .word w' → w = w' := by
  cases x with
  | word w =>
      refine ⟨w, fun w' hw' => ?_⟩
      cases hw'
      rfl
  | timeout => exact ⟨0#32, fun w' hw' => by cases hw'⟩
  | crcFailure => exact ⟨0#32, fun w' hw' => by cases hw'⟩

/-- Such a card exists: it can answer in every state. -/
theorem scriptedCard_live {delay : Nat} {o : Nat → Answer} (s : TalkState) (e : SdioEvent) :
    ∃ r s', (answeringCard (scriptedCard delay o)).step s e r s' := by
  refine answeringCard_live ?_ ?_ s e
  · exact fun sent => (o (sent.length - 1)).exists_endedBy
  · exact fun sent => (o (sent.length - 1)).exists_word

variable {delay fuel : Nat} {o : Nat → Answer} {D : TalkState → Prop} {g : SdGlobals}
  {s : TalkState}

/-- An R1 command takes in the answer the script has for it. -/
theorem wp_cmdResp1Error_scripted {x : Answer} {cs : CardStatus} (hfuel : delay < fuel)
    (hquiet : s.quiet ≤ delay) (hx : o (s.sent.length - 1) = x) :
    (cmdResp1Error fuel cs).wp (answeringCard (scriptedCard delay o)) D
      (fun r g' s' => s'.sent = s.sent ∧ r = (x.status, x.copied cs) ∧ g' = x.recorded g) g s := by
  unfold cmdResp1Error
  refine wp_seq (wp_answerStatus hfuel hquiet) ?_
  rintro status g₁ s₁ ⟨rfl, hsame, sta, hends, rfl⟩
  have hended : x.EndedBy sta := hx ▸ hends
  cases x with
  | timeout =>
      have hstatus : answerOf sta = errorWaitTime := hended.answerOf_eq
      rw [hstatus, if_pos (by decide)]
      exact ⟨hsame.sent, rfl, rfl⟩
  | crcFailure =>
      have hstatus : answerOf sta = errorCrc := hended.answerOf_eq
      rw [hstatus, if_pos (by decide)]
      exact ⟨hsame.sent, rfl, rfl⟩
  | word w =>
      have hstatus : answerOf sta = 0 := hended.answerOf_eq
      rw [hstatus, if_neg (by decide)]
      simp only [wp_bind, wp_readResp0, wp_assignSd, wp_pure]
      intro w' hw'
      -- `RESP[0]` holds the word of the script.
      have hword : w' = w := hw' w (hsame.sent ▸ hx)
      subst hword
      exact ⟨hsame.sent, rfl, rfl⟩

theorem wp_sendStatusSd_scripted {x : Answer} {cs : CardStatus} (hfuel : delay < fuel)
    (hx : o s.sent.length = x) :
    (sendStatusSd fuel cs).wp (answeringCard (scriptedCard delay o)) D
      (fun r g' s' => s'.sent = statusQuery g :: s.sent ∧ r = (x.queryStatus, x.copied cs) ∧
        g' = x.recorded g) g s := by
  unfold sendStatusSd
  simp only [wp_bind, wp_globals, wp_sendCommandSdio]
  refine wp_mono (wp_cmdResp1Error_scripted hfuel (Nat.le_refl delay) hx) ?_
  rintro r g₁ s₁ ⟨hsent, rfl, rfl⟩
  unfold Answer.queryStatus
  dsimp only
  split
  · exact ⟨hsent, rfl, rfl⟩
  · exact ⟨hsent, rfl, rfl⟩

end Driver
end SdioFat32
