import SdioFat32.Driver.Response

/-!
# AnsweringCard — a card that answers every command in bounded time

The environment keeps the commands sent, the last one first, each with its argument.  After a
command at most `delay` polls of `STA` are empty; what ends the wait and what the response
register holds is up to the card and may depend on the commands sent.
-/

namespace SdioFat32
namespace Driver

open Effects Proc

/-- The words written to `CMD` and `ARG`. -/
structure SentCommand where
  word : BitVec 32
  arg : BitVec 32
  deriving DecidableEq

structure CardBehaviour where
  delay : Nat
  /-- The values of `STA` that may end the wait. -/
  ends : List SentCommand → BitVec 32 → Prop
  /-- The values `RESP1` may have. -/
  answers : List SentCommand → BitVec 32 → Prop

structure TalkState where
  sent : List SentCommand
  arg : BitVec 32
  quiet : Nat

def TalkState.start : TalkState :=
  { sent := []
    arg := 0#32
    quiet := 0 }

/-- `CMDREND | CTIMEOUT | CCRCFAIL` -/
def responseFlags : BitVec 32 := sdioStaCmdrend ||| sdioStaCtimeout ||| sdioStaCcrcfail

def answeringCard (card : CardBehaviour) : Env SdioEvent SdioEvent.Response TalkState where
  step s e r s' :=
    match e, r with
    | .write .arg v, _ => s' = { s with arg := v }
    | .write .cmd w, _ => s' = { s with sent := ⟨w, s.arg⟩ :: s.sent, quiet := card.delay }
    | .sta .cmdResp, (w : BitVec 32) =>
        if hasFlag w responseFlags then card.ends s.sent w ∧ s' = s
        -- An empty poll, of which there are at most `quiet` more.
        else 0 < s.quiet ∧ s' = { s with quiet := s.quiet - 1 }
    | .read (.resp 0), (w : BitVec 32) => card.answers s.sent w ∧ s' = s
    | _, _ => s' = s

/-- Nothing was sent, and the card still answers in time. -/
structure SameTalk (card : CardBehaviour) (s s' : TalkState) : Prop where
  sent : s'.sent = s.sent
  quiet : s'.quiet ≤ card.delay

variable {card : CardBehaviour} {D : TalkState → Prop} {g : SdGlobals} {s s₁ : TalkState}
  {fuel : Nat}

theorem SameTalk.refl (hquiet : s.quiet ≤ card.delay) : SameTalk card s s where
  sent := rfl
  quiet := hquiet

/-! ## Rules for one event -/

@[simp] theorem wp_readSta_cmdResp {Q : BitVec 32 → SdGlobals → TalkState → Prop} :
    (readSta .cmdResp).wp (answeringCard card) D Q g s ↔
      ∀ w : BitVec 32,
        (hasFlag w responseFlags = true → card.ends s.sent w → Q w g s) ∧
        (hasFlag w responseFlags = false → 0 < s.quiet → Q w g { s with quiet := s.quiet - 1 }) := by
  constructor
  · rintro ⟨_, h⟩ w
    constructor
    · intro hflag hends
      refine h w s ?_
      simp [answeringCard, hflag, hends]
    · intro hflag hquiet
      refine h w _ ?_
      simp [answeringCard, hflag, hquiet]
  · intro h
    refine ⟨trivial, ?_⟩
    intro w s' hstep
    simp only [answeringCard] at hstep
    split at hstep
    · rename_i hflag
      rcases hstep with ⟨hends, rfl⟩
      exact (h w).1 hflag hends
    · rename_i hflag
      rcases hstep with ⟨hquiet, rfl⟩
      exact (h w).2 (by simpa using hflag) hquiet

@[simp] theorem wp_readResp0 {Q : BitVec 32 → SdGlobals → TalkState → Prop} :
    (readReg (.resp 0)).wp (answeringCard card) D Q g s ↔
      ∀ w : BitVec 32, card.answers s.sent w → Q w g s := by
  constructor
  · rintro ⟨_, h⟩ w hw
    exact h w s ⟨hw, rfl⟩
  · intro h
    refine ⟨trivial, ?_⟩
    rintro w s' ⟨hw, rfl⟩
    exact h w hw

@[simp] theorem wp_sendCommandSdio {command arg formatResp : BitVec 32}
    {Q : Unit → SdGlobals → TalkState → Prop} :
    (sendCommandSdio command arg formatResp).wp (answeringCard card) D Q g s ↔
      Q () g
        { sent := ⟨commandWord command formatResp, arg⟩ :: s.sent
          arg := arg
          quiet := card.delay } := by
  constructor
  · rintro ⟨_, h⟩
    exact (h () _ rfl).2 () _ rfl
  · intro h
    refine ⟨trivial, ?_⟩
    rintro _ s' rfl
    refine ⟨trivial, ?_⟩
    rintro _ s'' rfl
    exact h

/-- Events that neither send a command nor wait for its answer. -/
def OffTalk : SdioEvent → Prop
  | .sta .cmdResp => False
  | .write .arg _ => False
  | .write .cmd _ => False
  | _ => True

theorem OffTalk.same {e : SdioEvent} {r : e.Response} (hoff : OffTalk e)
    (hstep : (answeringCard card).step s e r s₁) : s₁ = s := by
  cases e with
  | sta site =>
      cases site with
      | cmdResp => exact hoff.elim
      | _ => exact hstep
  | write reg v =>
      cases reg with
      | arg => exact hoff.elim
      | cmd => exact hoff.elim
      | _ => exact hstep
  | read reg =>
      cases reg with
      | resp i =>
          by_cases hi : i = 0
          · subst hi
            exact hstep.2
          · match i, hi, r, hstep with
            | 1, _, _, hstep => exact hstep
            | 2, _, _, hstep => exact hstep
            | 3, _, _, hstep => exact hstep
      | _ => exact hstep
  | _ => exact hstep

theorem wp_offTalkEvent {e : SdioEvent} {Q : e.Response → SdGlobals → TalkState → Prop}
    (hoff : OffTalk e) (h : ∀ r, Q r g s) : (perform e).wp (answeringCard card) D Q g s := by
  refine ⟨trivial, fun r s' hstep => ?_⟩
  have hsame : s' = s := hoff.same hstep
  subst hsame
  exact h r

@[simp] theorem wp_clearFlagSdio {flag : BitVec 32} {Q : Unit → SdGlobals → TalkState → Prop} :
    (clearFlagSdio flag).wp (answeringCard card) D Q g s ↔ Q () g s := by
  constructor
  · rintro ⟨_, h⟩
    exact (h 0#32 s rfl).2 () s rfl
  · intro h
    refine ⟨trivial, ?_⟩
    rintro w s' rfl
    refine ⟨trivial, ?_⟩
    rintro _ s'' rfl
    exact h

/-- A card that has an end and a word for every command can answer in every state. -/
theorem answeringCard_live
    (hends : ∀ sent, ∃ sta, hasFlag sta responseFlags = true ∧ card.ends sent sta)
    (hanswers : ∀ sent, ∃ w, card.answers sent w) (s : TalkState) (e : SdioEvent) :
    ∃ r s', (answeringCard card).step s e r s' := by
  cases e with
  | sta site =>
      cases site with
      | cmdResp =>
          rcases hends s.sent with ⟨sta, hflag, hend⟩
          refine ⟨sta, s, ?_⟩
          simp only [answeringCard, hflag, if_true]
          exact ⟨hend, trivial⟩
      -- The other reads of `STA` say nothing.
      | _ => exact ⟨0#32, s, rfl⟩
  | read reg =>
      cases reg with
      | resp i =>
          match i with
          | 0 =>
              rcases hanswers s.sent with ⟨w, hw⟩
              exact ⟨w, s, hw, rfl⟩
          | 1 => exact ⟨0#32, s, rfl⟩
          | 2 => exact ⟨0#32, s, rfl⟩
          | 3 => exact ⟨0#32, s, rfl⟩
      | _ => exact ⟨0#32, s, rfl⟩
  | write reg v => cases reg <;> exact ⟨(), _, rfl⟩
  | load addr => exact ⟨0#32, s, rfl⟩
  | indeterminate => exact ⟨0#32, s, rfl⟩
  | getPll48clkFreq => exact ⟨0#32, s, rfl⟩
  | _ => exact ⟨(), s, rfl⟩

/-! ## The response functions -/

/-- The wait ends within the bound, and nothing else happens. -/
theorem wp_waitResponse (hfuel : card.delay < fuel) (hquiet : s.quiet ≤ card.delay) :
    (waitResponse fuel).wp (answeringCard card) D
      (fun w g' s' => g' = g ∧ SameTalk card s s' ∧ hasFlag w responseFlags = true ∧
        card.ends s.sent w) g s := by
  unfold waitResponse
  -- The empty polls that are left are the measure.
  refine wp_iter_total (fun _ g' s' => g' = g ∧ SameTalk card s s') (fun _ _ s' => s'.quiet)
    ?_ fuel ⟨rfl, SameTalk.refl hquiet⟩ (Nat.lt_of_le_of_lt hquiet hfuel)
  rintro _ g' s' ⟨rfl, hsame⟩
  simp only [wp_bind, wp_readSta_cmdResp]
  intro w
  constructor
  · intro hflag hends
    have hflag' : hasFlag w (sdioStaCmdrend ||| sdioStaCtimeout ||| sdioStaCcrcfail) = true := hflag
    rw [if_pos hflag']
    exact ⟨rfl, hsame, hflag, hsame.sent ▸ hends⟩
  · intro hflag hpos
    have hflag' : ¬hasFlag w (sdioStaCmdrend ||| sdioStaCtimeout ||| sdioStaCcrcfail) = true :=
      Bool.not_eq_true _ ▸ hflag
    rw [if_neg hflag']
    have hle : s'.quiet - 1 ≤ card.delay := Nat.le_trans (Nat.sub_le _ _) hsame.quiet
    exact ⟨⟨rfl, hsame.sent, hle⟩, Nat.sub_lt hpos Nat.one_pos⟩

/-- What the driver makes of the value of `STA` that ends the wait. -/
def answerOf (sta : BitVec 32) : Int :=
  if hasFlag sta sdioStaCtimeout then errorWaitTime
  else if hasFlag sta sdioStaCcrcfail then errorCrc
  else 0

theorem wp_answerStatus {onTimeout onCrc : BitVec 32} (hfuel : card.delay < fuel)
    (hquiet : s.quiet ≤ card.delay) :
    (answerStatus fuel onTimeout onCrc).wp (answeringCard card) D
      (fun status g' s' => g' = g ∧ SameTalk card s s' ∧
        ∃ sta, card.ends s.sent sta ∧ status = answerOf sta) g s := by
  unfold answerStatus
  refine wp_seq (wp_waitResponse hfuel hquiet) ?_
  rintro sta g' s' ⟨rfl, hsame, _, hends⟩
  split
  · rename_i htimeout
    simp only [wp_bind, wp_clearFlagSdio, wp_pure, true_and]
    exact ⟨hsame, sta, hends, by simp [answerOf, htimeout]⟩
  · rename_i htimeout
    split
    · rename_i hcrc
      simp only [wp_bind, wp_clearFlagSdio, wp_pure, true_and]
      exact ⟨hsame, sta, hends, by simp [answerOf, htimeout, hcrc]⟩
    · rename_i hcrc
      simp only [wp_bind, wp_clearFlagSdio, wp_pure, true_and]
      exact ⟨hsame, sta, hends, by simp [answerOf, htimeout, hcrc]⟩

/-- An R1 answer: the wait failed, or the status word decides. -/
theorem wp_cmdResp1Error {cs : CardStatus} (hfuel : card.delay < fuel)
    (hquiet : s.quiet ≤ card.delay) :
    (cmdResp1Error fuel cs).wp (answeringCard card) D
      (fun r g' s' => SameTalk card s s' ∧ ∃ sta, card.ends s.sent sta ∧
        ((answerOf sta ≠ 0 ∧ r = (answerOf sta, cs) ∧ g' = g) ∨
          (answerOf sta = 0 ∧ ∃ w, card.answers s.sent w ∧ r.1 = r1Error w ∧
            CardStatus.readyForData r.2 = CardStatus.readyForData w ∧
            CardStatus.appCmd r.2 = CardStatus.appCmd w ∧
            g' = { g with sd := { g.sd with state := CardStatus.currentState w } }))) g s := by
  unfold cmdResp1Error
  refine wp_seq (wp_answerStatus hfuel hquiet) ?_
  rintro status g' s' ⟨rfl, hsame, sta, hends, rfl⟩
  split
  · rename_i hfailed
    exact ⟨hsame, sta, hends, Or.inl ⟨hfailed, rfl, rfl⟩⟩
  · rename_i hok
    simp only [wp_bind, wp_readResp0, wp_assignSd, wp_pure]
    intro w hw
    have hready := CardStatus.readyForData_copyFields cs w
    have happ := CardStatus.appCmd_copyFields cs w
    exact ⟨hsame, sta, hends, Or.inr ⟨not_not.1 hok, w, hsame.sent ▸ hw, rfl, hready, happ, rfl⟩⟩

end Driver
end SdioFat32
