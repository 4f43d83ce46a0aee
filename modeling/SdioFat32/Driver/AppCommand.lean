import SdioFat32.Driver.Identification
import SdioFat32.Driver.ScriptedCard

/-!
# AppCommand — `send_command_specific` and the variable it does not initialise

`cs_pattern` is an uninitialised local variable, and a `CMD55` that times out or fails its CRC
check leaves it as it is: whether another attempt is made then depends on what the stack held.

* `appCmdVerdict`: the status of the `CMD55` loop and the number of its commands, as a function of
  the answers and of the bit that was found;
* `stackHolding`: the uninitialised variable holds a given word;
* `Independent`: the runs with any two words agree.
-/

namespace SdioFat32
namespace Driver

open Effects Proc

/-! ## The loop as a function of the answers -/

/-- `cs_pattern.APP_CMD` after an answer: without a word the field keeps its value. -/
def Answer.appCmd (x : Answer) (before : Bool) : Bool :=
  match x with
  | .word w => CardStatus.appCmd w
  | _ => before

/-- The loop from answer `k` on, with `attempts` left. -/
def appCmdVerdict (o : Nat → Answer) : Nat → Nat → Bool → Int × Nat
  | 0, _, _ => (-3, 0)
  | attempts + 1, k, flag =>
      if (o k).status < 0 ∧ (o k).appCmd flag ≠ true then ((o k).status, 1)
      else if (o k).status = 0 then (0, 1)
      else
        let rest := appCmdVerdict o attempts (k + 1) ((o k).appCmd flag)
        (rest.1, rest.2 + 1)

/-- `CMD55` as it is sent with the address of the card. -/
def appCmdQuery (g : SdGlobals) : SentCommand := ⟨appCmdWord, g.sd.rca.setWidth 32 <<< 16⟩

theorem Answer.appCmd_copied (x : Answer) (cs : CardStatus) :
    CardStatus.appCmd (x.copied cs) = x.appCmd (CardStatus.appCmd cs) := by
  cases x with
  | timeout => rfl
  | crcFailure => rfl
  | word w => exact CardStatus.appCmd_copyFields cs w

/-- After a word, what was on the stack no longer matters. -/
theorem appCmdVerdict_of_word {o : Nat → Answer} {k : Nat} {w : BitVec 32}
    (hword : o k = .word w) (attempts : Nat) (flag flag' : Bool) :
    appCmdVerdict o attempts k flag = appCmdVerdict o attempts k flag' := by
  cases attempts with
  | zero => rfl
  | succ attempts =>
      have hflag : (o k).appCmd flag = (o k).appCmd flag' := by
        rw [hword]
        rfl
      rw [appCmdVerdict, appCmdVerdict, hflag]

/-- At most `attempts` commands, and a status of 0 only if the last of them was answered without
an error. -/
theorem appCmdVerdict_bounds (o : Nat → Answer) (attempts k : Nat) (flag : Bool) :
    (appCmdVerdict o attempts k flag).2 ≤ attempts ∧
      ((appCmdVerdict o attempts k flag).1 = 0 →
        ∃ j, (appCmdVerdict o attempts k flag).2 = j + 1 ∧ (o (k + j)).ErrorFree) := by
  induction attempts generalizing k flag with
  | zero =>
      have hgivenUp : (-3 : Int) ≠ 0 := by decide
      exact ⟨Nat.le_refl 0, fun h => absurd h hgivenUp⟩
  | succ attempts ih =>
      rw [appCmdVerdict]
      split
      · rename_i hrefused
        exact ⟨Nat.succ_pos attempts, fun h => absurd h (Int.ne_of_lt hrefused.1)⟩
      · split
        · rename_i hzero
          exact ⟨Nat.succ_pos attempts, fun _ => ⟨0, rfl, Answer.status_eq_zero.1 hzero⟩⟩
        · rcases ih (k + 1) ((o k).appCmd flag) with ⟨hle, hlast⟩
          refine ⟨Nat.succ_le_succ hle, fun h => ?_⟩
          rcases hlast h with ⟨j, hj, hfree⟩
          refine ⟨j + 1, congrArg (· + 1) hj, ?_⟩
          rwa [Nat.add_right_comm] at hfree

/-- If no word comes first, the bit that was found decides whether there is a second attempt. -/
theorem appCmdVerdict_of_failed {o : Nat → Answer} {k : Nat} (hnone : ∀ w, o k ≠ .word w)
    (attempts : Nat) :
    (appCmdVerdict o (attempts + 2) k false).1 ≠ 0 ∧
      (appCmdVerdict o (attempts + 2) k false).2 < (appCmdVerdict o (attempts + 2) k true).2 := by
  have hstatus : (o k).status < 0 := by
    cases hx : o k with
    | word w => exact absurd hx (hnone w)
    | timeout => decide
    | crcFailure => decide
  -- Without a word from the card the flag is what the stack held.
  have hflag : ∀ flag, (o k).appCmd flag = flag := by
    intro flag
    cases hx : o k with
    | word w => exact absurd hx (hnone w)
    | timeout => rfl
    | crcFailure => rfl
  have hmore : ∀ (k : Nat) (flag : Bool), 1 ≤ (appCmdVerdict o (attempts + 1) k flag).2 := by
    intro k flag
    rw [appCmdVerdict]
    split
    · exact Nat.le_refl 1
    · split
      · exact Nat.le_refl 1
      · exact Nat.succ_pos _
  have hrefused : appCmdVerdict o (attempts + 2) k false = ((o k).status, 1) := by
    have hcond : (o k).status < 0 ∧ (o k).appCmd false ≠ true := by
      rw [hflag]
      exact ⟨hstatus, Bool.false_ne_true⟩
    rw [appCmdVerdict, if_pos hcond]
  have hagain : 2 ≤ (appCmdVerdict o (attempts + 2) k true).2 := by
    have hcond : ¬((o k).status < 0 ∧ (o k).appCmd true ≠ true) := by
      rw [hflag]
      exact fun h => h.2 rfl
    rw [appCmdVerdict, if_neg hcond, if_neg (Int.ne_of_lt hstatus)]
    exact Nat.succ_le_succ (hmore (k + 1) _)
  rw [hrefused]
  exact ⟨Int.ne_of_lt hstatus, hagain⟩

/-! ## The loop -/

variable {delay fuel : Nat} {o : Nat → Answer} {D : TalkState → Prop} {g : SdGlobals}
  {s : TalkState}

theorem appCmdQuery_recorded (x : Answer) (g : SdGlobals) :
    appCmdQuery (x.recorded g) = appCmdQuery g := by
  unfold appCmdQuery
  rw [(x.sameCard_recorded g).rca]

theorem wp_appCmdLoop_scripted (hfuel : delay < fuel) (attempts : Nat) (cs : CardStatus) :
    (appCmdLoop fuel attempts cs).wp (answeringCard (scriptedCard delay o)) D
      (fun status _ s' =>
        let verdict := appCmdVerdict o attempts s.sent.length (CardStatus.appCmd cs)
        status = verdict.1 ∧ s'.sent = List.replicate verdict.2 (appCmdQuery g) ++ s.sent) g s := by
  induction attempts generalizing cs g s with
  | zero => exact ⟨rfl, rfl⟩
  | succ attempts ih =>
      rw [appCmdLoop, appCmdVerdict]
      refine wp_bind.2 (wp_globals.2 (wp_bind.2 (wp_sendCommandSdio.2 ?_)))
      refine wp_seq (wp_cmdResp1Error_scripted hfuel (Nat.le_refl delay) rfl) ?_
      rintro r g₁ s₁ ⟨hsent, rfl, rfl⟩
      have hlength : s₁.sent.length = s.sent.length + 1 := by
        rw [hsent, List.length_cons]
      dsimp only
      rw [List.length_cons, Nat.add_sub_cancel, Answer.appCmd_copied]
      split
      · exact ⟨rfl, hsent⟩
      · split
        · exact ⟨rfl, hsent⟩
        · -- Another attempt, with the flag of this answer.
          refine wp_mono (ih _) ?_
          rintro status g' s' ⟨hstatus, hs'⟩
          rw [Answer.appCmd_copied, hlength] at hstatus hs'
          refine ⟨hstatus, ?_⟩
          rw [hs', appCmdQuery_recorded, hsent, List.replicate_succ', List.append_assoc]
          rfl

/-! ## The uninitialised variable -/

/-- Reading the variable gives `c`. -/
def HoldsWord (c : CardStatus) : (e : SdioEvent) → e.Response → Prop
  | .indeterminate, r => r = c
  | _, _ => True

/-- The same card, with `c` on the stack where `cs_pattern` is. -/
def stackHolding (card : CardBehaviour) (c : CardStatus) :
    Env SdioEvent SdioEvent.Response TalkState where
  step s e r s' := (answeringCard card).step s e r s' ∧ HoldsWord c e r

theorem stackHolding_live {c : CardStatus} (s : TalkState) (e : SdioEvent) :
    ∃ r s', (stackHolding (scriptedCard delay o) c).step s e r s' := by
  have hlive : ∃ r s', (answeringCard (scriptedCard delay o)).step s e r s' :=
    scriptedCard_live s e
  rcases hlive with ⟨r, s', hstep⟩
  cases e with
  | indeterminate => exact ⟨c, s, rfl, rfl⟩
  | _ => exact ⟨r, s', hstep, trivial⟩

theorem wp_stackHolding {α : Type} {card : CardBehaviour} {c : CardStatus} {p : SdProc α}
    {Q : α → SdGlobals → TalkState → Prop} (h : p.wp (answeringCard card) D Q g s) :
    p.wp (stackHolding card c) D Q g s := by
  refine wp_narrow ?_ ?_ h
  · exact fun _ _ _ _ hstep => hstep.1
  · exact fun _ _ _ => trivial

theorem wp_indeterminate_holding {card : CardBehaviour} {c : CardStatus}
    {Q : BitVec 32 → SdGlobals → TalkState → Prop} (h : Q c g s) :
    indeterminate.wp (stackHolding card c) D Q g s := by
  refine ⟨trivial, ?_⟩
  rintro (found : BitVec 32) s₁ ⟨hstep, hfound⟩
  have hsame : s₁ = s := hstep
  have hword : found = c := hfound
  subst hsame hword
  exact h

/-- The commands of a call, the last one first. -/
def appCommands (g : SdGlobals) (app : SentCommand) (verdict : Int × Nat) : List SentCommand :=
  if verdict.1 = 0 then app :: List.replicate verdict.2 (appCmdQuery g)
  else List.replicate verdict.2 (appCmdQuery g)

theorem wp_sendCommandSpecific_scripted {appCmd arg formatResp : BitVec 32} {c : CardStatus}
    (hfuel : delay < fuel) :
    (sendCommandSpecific fuel appCmd arg formatResp).wp (stackHolding (scriptedCard delay o) c) D
      (fun status _ s' =>
        let verdict := appCmdVerdict o 8 0 (CardStatus.appCmd c)
        status = verdict.1 ∧
          s'.sent = appCommands g ⟨commandWord appCmd formatResp, arg⟩ verdict) g .start := by
  refine wp_bind.2 (wp_indeterminate_holding ?_)
  refine wp_stackHolding (wp_seq (wp_appCmdLoop_scripted hfuel 8 c) ?_)
  rintro status g' s' ⟨hstatus, hsent⟩
  have hsent' : s'.sent = List.replicate
      (appCmdVerdict o 8 0 (CardStatus.appCmd c)).2 (appCmdQuery g) :=
    hsent.trans (List.append_nil _)
  unfold appCommands
  split
  · rename_i hne
    exact ⟨hstatus, by rw [if_neg (hstatus ▸ hne), hsent']⟩
  · rename_i hzero
    have hzero' : (appCmdVerdict o 8 0 (CardStatus.appCmd c)).1 = 0 :=
      hstatus.symm.trans (not_not.1 hzero)
    refine wp_bind.2 (wp_sendCommandSdio.2 ⟨hzero'.symm, ?_⟩)
    rw [if_pos hzero', hsent']

/-! ## Independence -/

/-- Whatever was on the stack, the commands and the status are the same. -/
def Independent (delay fuel : Nat) (o : Nat → Answer) (g : SdGlobals)
    (appCmd arg formatResp : BitVec 32) : Prop :=
  ∀ (c₁ c₂ : CardStatus) (status₁ status₂ : Int) (g₁ g₂ : SdGlobals) (s₁ s₂ : TalkState),
    Runs (stackHolding (scriptedCard delay o) c₁)
      (sendCommandSpecific fuel appCmd arg formatResp g) .start (status₁, g₁) s₁ →
    Runs (stackHolding (scriptedCard delay o) c₂)
      (sendCommandSpecific fuel appCmd arg formatResp g) .start (status₂, g₂) s₂ →
    status₁ = status₂ ∧ s₁.sent = s₂.sent

/-- At most eight `CMD55`, and the application command only right after one that was answered
without an error. -/
def AppCommandOrder (o : Nat → Answer) (g : SdGlobals) (app : SentCommand)
    (sent : List SentCommand) : Prop :=
  ∃ n ≤ 8, sent = List.replicate n (appCmdQuery g) ∨
    sent = app :: List.replicate n (appCmdQuery g) ∧ ∃ j, n = j + 1 ∧ (o j).ErrorFree

theorem appCommandOrder_appCommands (o : Nat → Answer) (g : SdGlobals) (app : SentCommand)
    (flag : Bool) : AppCommandOrder o g app (appCommands g app (appCmdVerdict o 8 0 flag)) := by
  rcases appCmdVerdict_bounds o 8 0 flag with ⟨hle, hlast⟩
  refine ⟨_, hle, ?_⟩
  unfold appCommands
  split
  · rename_i hzero
    rcases hlast hzero with ⟨j, hj, hfree⟩
    exact Or.inr ⟨rfl, j, hj, Nat.zero_add j ▸ hfree⟩
  · exact Or.inl rfl

/-- If the stack decides, the numbers of commands differ. -/
theorem commands_differ {verdict verdict' : Int × Nat} {app : SentCommand}
    (hone : verdict.1 ≠ 0) (hless : verdict.2 < verdict'.2) :
    appCommands g app verdict ≠ appCommands g app verdict' := by
  intro h
  have hlength := congrArg List.length h
  unfold appCommands at hlength
  rw [if_neg hone, List.length_replicate] at hlength
  split at hlength
  · rw [List.length_cons, List.length_replicate] at hlength
    omega
  · rw [List.length_replicate] at hlength
    omega

/-- The first `CMD55` times out; any further one is answered without an error. -/
def firstTimesOut : Nat → Answer
  | 0 => .timeout
  | _ + 1 => .word 0x920#32

/-- A timeout of the first `CMD55`: with `APP_CMD` clear on the stack the call fails, with the bit
set it goes on and succeeds. -/
theorem stack_decides_app_command :
    ∃ status₁ status₂ g₁ g₂ s₁ s₂,
      Runs (stackHolding (scriptedCard 0 firstTimesOut) 0#32)
        (sendCommandSpecific 1 acmdSetBusWidth bit4WidthSd sdioCmdShortResp blankGlobals) .start
        (status₁, g₁) s₁ ∧
      Runs (stackHolding (scriptedCard 0 firstTimesOut) 0x20#32)
        (sendCommandSpecific 1 acmdSetBusWidth bit4WidthSd sdioCmdShortResp blankGlobals) .start
        (status₂, g₂) s₂ ∧
      status₁ = errorWaitTime ∧ s₁.sent.length = 1 ∧ status₂ = 0 ∧ s₂.sent.length = 3 ∧
      ¬Independent 0 1 firstTimesOut blankGlobals acmdSetBusWidth bit4WidthSd sdioCmdShortResp := by
  rcases exists_run (wp_sendCommandSpecific_scripted Nat.zero_lt_one) stackHolding_live with
    ⟨status₁, g₁, s₁, hrun₁, hstatus₁, hsent₁⟩
  rcases exists_run (wp_sendCommandSpecific_scripted Nat.zero_lt_one) stackHolding_live with
    ⟨status₂, g₂, s₂, hrun₂, hstatus₂, hsent₂⟩
  refine ⟨status₁, status₂, g₁, g₂, s₁, s₂, hrun₁, hrun₂, ?_⟩
  -- With the flag clear the first timeout is final; with the flag set there is a second attempt.
  have hclear : appCmdVerdict firstTimesOut 8 0 (CardStatus.appCmd 0#32) = (errorWaitTime, 1) := by
    decide
  have hset : appCmdVerdict firstTimesOut 8 0 (CardStatus.appCmd 0x20#32) = (0, 2) := by
    decide
  rw [hclear] at hstatus₁ hsent₁
  rw [hset] at hstatus₂ hsent₂
  refine ⟨hstatus₁, by rw [hsent₁]; rfl, hstatus₂, by rw [hsent₂]; rfl, ?_⟩
  intro hindependent
  have hsame := (hindependent _ _ _ _ _ _ _ _ hrun₁ hrun₂).1
  rw [hstatus₁, hstatus₂] at hsame
  exact absurd hsame (by decide)

/-- The application command is sent in order whatever the stack holds; the stack is without
influence exactly if the first `CMD55` is answered by a word. -/
theorem app_command_independent_iff (delay fuel : Nat) (hfuel : delay < fuel) (o : Nat → Answer)
    (g : SdGlobals) (appCmd arg formatResp : BitVec 32) :
    (∀ c : CardStatus, ∃ status g' s', Runs (stackHolding (scriptedCard delay o) c)
      (sendCommandSpecific fuel appCmd arg formatResp g) .start (status, g') s') ∧
    (∀ (c : CardStatus) (status : Int) (g' : SdGlobals) (s' : TalkState),
      Runs (stackHolding (scriptedCard delay o) c)
        (sendCommandSpecific fuel appCmd arg formatResp g) .start (status, g') s' →
      AppCommandOrder o g ⟨commandWord appCmd formatResp, arg⟩ s'.sent) ∧
    (Independent delay fuel o g appCmd arg formatResp ↔ ∃ w, o 0 = .word w) := by
  refine ⟨?_, ?_, ?_, ?_⟩
  · intro c
    rcases exists_run (wp_sendCommandSpecific_scripted hfuel) stackHolding_live with
      ⟨status, g', s', hrun, _⟩
    exact ⟨status, g', s', hrun⟩
  · intro c status g' s' hrun
    have hsent := (wp_runs (wp_sendCommandSpecific_scripted (D := fun _ => True) hfuel) hrun).2
    rw [hsent]
    exact appCommandOrder_appCommands _ _ _ _
  · intro hindependent
    by_contra hnone
    -- The runs with `APP_CMD` clear and set differ in what they send.
    rcases exists_run (wp_sendCommandSpecific_scripted hfuel) stackHolding_live with
      ⟨status₁, g₁, s₁, hrun₁, _, hsent₁⟩
    rcases exists_run (wp_sendCommandSpecific_scripted hfuel) stackHolding_live with
      ⟨status₂, g₂, s₂, hrun₂, _, hsent₂⟩
    have hsame := (hindependent 0#32 0x20#32 _ _ _ _ _ _ hrun₁ hrun₂).2
    have hclear : CardStatus.appCmd 0#32 = false := by decide
    have hset : CardStatus.appCmd 0x20#32 = true := by decide
    rcases appCmdVerdict_of_failed (fun w hw => hnone ⟨w, hw⟩) 6 with ⟨hone, hless⟩
    rw [hsent₁, hsent₂, hclear, hset] at hsame
    exact commands_differ hone hless hsame
  · rintro ⟨w, hword⟩ c₁ c₂ status₁ status₂ g₁ g₂ s₁ s₂ hrun₁ hrun₂
    have hverdict := appCmdVerdict_of_word hword 8 (CardStatus.appCmd c₁) (CardStatus.appCmd c₂)
    have hends₁ := wp_runs (wp_sendCommandSpecific_scripted (D := fun _ => True) hfuel) hrun₁
    have hends₂ := wp_runs (wp_sendCommandSpecific_scripted (D := fun _ => True) hfuel) hrun₂
    rw [hverdict] at hends₁
    exact ⟨hends₁.1.trans hends₂.1.symm, hends₁.2.trans hends₂.2.symm⟩

/-- A card that answers every `CMD55`. -/
theorem app_command_independent_iff_answered :
    (∃ status g' s', Runs (stackHolding (scriptedCard 0 fun _ => .word 0x920#32) 0#32)
      (sendCommandSpecific 1 acmdSetBusWidth bit4WidthSd sdioCmdShortResp blankGlobals) .start
        (status, g') s' ∧
      AppCommandOrder (fun _ => .word 0x920#32) blankGlobals
        ⟨commandWord acmdSetBusWidth sdioCmdShortResp, bit4WidthSd⟩ s'.sent) ∧
    Independent 0 1 (fun _ => .word 0x920#32) blankGlobals acmdSetBusWidth bit4WidthSd
      sdioCmdShortResp := by
  rcases app_command_independent_iff 0 1 Nat.zero_lt_one (fun _ => .word 0x920#32) blankGlobals
    acmdSetBusWidth bit4WidthSd sdioCmdShortResp with ⟨hruns, horder, hindependent⟩
  rcases hruns 0#32 with ⟨status, g', s', hrun⟩
  exact ⟨⟨status, g', s', hrun, horder 0#32 status g' s' hrun⟩, hindependent.2 ⟨0x920#32, rfl⟩⟩

end Driver
end SdioFat32
