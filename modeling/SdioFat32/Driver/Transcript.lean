import SdioFat32.Driver.AnsweringCard
import SdioFat32.Driver.Erase

/-!
# Transcript — what was sent and what was heard

The environment restricts the card in nothing; it keeps the commands and their answers in one
list, the last one first, so that "the answer after this command" can be said.  This file defines:

* `Answer`: a timeout, a CRC failure, or the word read from `RESP1`;
* `Entry` and `transcript`: the list and the environment that keeps it;
* `IsReady`: an R1 word without an error bit, ready for data, in the state `TRAN`.
-/

namespace SdioFat32
namespace Driver

open Effects Proc

/-! ## Answers -/

inductive Answer where
  | timeout
  | crcFailure
  | word (w : BitVec 32)
  deriving DecidableEq

/-- What `CmdResp1Error` returns on this answer. -/
def Answer.status : Answer → Int
  | .timeout => errorWaitTime
  | .crcFailure => errorCrc
  | .word w => r1Error w

/-- An R1 word in which no error bit is set. -/
def Answer.ErrorFree (x : Answer) : Prop := ∃ w, x = .word w ∧ r1Error w = 0

/-- The answer to `CMD13` that `wait_card_ready` waits for. -/
def IsReady (w : CardStatus) : Prop :=
  r1Error w = 0 ∧ CardStatus.readyForData w = true ∧ CardStatus.currentState w = tranState

instance (w : CardStatus) : Decidable (IsReady w) :=
  inferInstanceAs (Decidable (_ ∧ _ ∧ _))

def Answer.Ready (x : Answer) : Prop := ∃ w, x = .word w ∧ IsReady w

theorem Answer.status_eq_zero {x : Answer} : x.status = 0 ↔ x.ErrorFree := by
  cases x with
  | timeout =>
      constructor
      · intro h
        exact absurd h (by decide)
      · rintro ⟨w, hw, _⟩
        cases hw
  | crcFailure =>
      constructor
      · intro h
        exact absurd h (by decide)
      · rintro ⟨w, hw, _⟩
        cases hw
  | word w =>
      constructor
      · intro h
        exact ⟨w, rfl, h⟩
      · rintro ⟨w', hw, hfree⟩
        cases hw
        exact hfree

/-! ## The list -/

inductive Entry where
  | sent (c : SentCommand)
  | heard (x : Answer)
  deriving DecidableEq

structure TalkRecord where
  arg : BitVec 32
  entries : List Entry

def TalkRecord.start : TalkRecord :=
  { arg := 0#32
    entries := [] }

def TalkRecord.add (s : TalkRecord) (entry : Entry) : TalkRecord :=
  { s with entries := entry :: s.entries }

/-- A poll of `STA` that shows a timeout or a CRC failure ends the wait for a word. -/
def TalkRecord.polled (s : TalkRecord) (sta : BitVec 32) : TalkRecord :=
  if hasFlag sta sdioStaCtimeout then s.add (.heard .timeout)
  else if hasFlag sta sdioStaCcrcfail then s.add (.heard .crcFailure)
  else s

/-- What is written down of an event and its response. -/
def TalkRecord.next (s : TalkRecord) : (e : SdioEvent) → e.Response → TalkRecord
  | .write .arg v, _ => { s with arg := v }
  | .write .cmd w, _ => s.add (.sent ⟨w, s.arg⟩)
  | .sta .cmdResp, w => s.polled w
  | .read (.resp 0), w => s.add (.heard (.word w))
  | _, _ => s

/-- `need` is what a program must respect when it sends a command after these entries. -/
def transcript (need : List Entry → SentCommand → Prop) :
    Env SdioEvent SdioEvent.Response TalkRecord where
  req s e :=
    match e with
    | .write .cmd w => need s.entries ⟨w, s.arg⟩
    | _ => True
  step s e r s' := s' = s.next e r

/-- Every command may be sent. -/
def anyCommand : List Entry → SentCommand → Prop := fun _ _ => True

/-- What the driver keeps of an answer in `*cs_pattern`. -/
def Answer.copied (x : Answer) (cs : CardStatus) : CardStatus :=
  match x with
  | .word w => CardStatus.copyFields cs w
  | _ => cs

/-- What the driver keeps of an answer in `SD`. -/
def Answer.recorded (x : Answer) (g : SdGlobals) : SdGlobals :=
  match x with
  | .word w => { g with sd := { g.sd with state := CardStatus.currentState w } }
  | _ => g

/-- The status `send_status_sd` makes of an answer. -/
def Answer.queryStatus (x : Answer) : Int :=
  if x.status = errorWaitTime ∨ x.status = errorCrc then errorResponce else x.status

variable {need : List Entry → SentCommand → Prop} {D : TalkRecord → Prop} {g g' : SdGlobals}
  {s s' : TalkRecord} {fuel : Nat}

/-- What a program must respect does not change where it gets to. -/
theorem reaches_transcript {α : Type} {need' : List Entry → SentCommand → Prop}
    {p q : Prog SdioEvent SdioEvent.Response α} (h : Reaches (transcript need) p s q s') :
    Reaches (transcript need') p s q s' := by
  have hstep : ∀ s e r s', (transcript need).step s e r s' → (transcript need').step s e r s' :=
    fun _ _ _ _ hstep => hstep
  exact h.widen hstep

theorem runs_transcript {α : Type} {need' : List Entry → SentCommand → Prop}
    {p : Prog SdioEvent SdioEvent.Response α} {x : α} (h : Runs (transcript need) p s x s') :
    Runs (transcript need') p s x s' := by
  have hstep : ∀ s e r s', (transcript need).step s e r s' → (transcript need').step s e r s' :=
    fun _ _ _ _ hstep => hstep
  exact h.widen hstep

/-! ## Rules for one event -/

@[simp] theorem wp_sendCommandSdio_transcript {command arg formatResp : BitVec 32}
    {Q : Unit → SdGlobals → TalkRecord → Prop} :
    (sendCommandSdio command arg formatResp).wp (transcript need) D Q g s ↔
      need s.entries ⟨commandWord command formatResp, arg⟩ ∧
        Q () g
          { arg := arg
            entries := .sent ⟨commandWord command formatResp, arg⟩ :: s.entries } := by
  constructor
  · rintro ⟨_, h⟩
    rcases h () _ rfl with ⟨hneed, hnext⟩
    exact ⟨hneed, hnext () _ rfl⟩
  · rintro ⟨hneed, hpost⟩
    refine ⟨trivial, ?_⟩
    rintro _ s₁ rfl
    refine ⟨hneed, ?_⟩
    rintro _ s₂ rfl
    exact hpost

theorem OffTalk.transcript_req {e : SdioEvent} (hoff : OffTalk e) :
    (transcript need).req s e := by
  cases e with
  | write reg v =>
      cases reg with
      | cmd => exact hoff.elim
      | _ => trivial
  | _ => trivial

/-- Events of no answer, and not the read of `RESP1`. -/
def OffRecord (e : SdioEvent) : Prop := OffTalk e ∧ e ≠ .read (.resp 0)

theorem OffRecord.same {e : SdioEvent} {r : e.Response} (hoff : OffRecord e)
    (hstep : (transcript need).step s e r s') : s' = s := by
  rcases hoff with ⟨hoff, hresp⟩
  cases e with
  | sta site =>
      cases site with
      | cmdResp => exact hoff.elim
      | _ => exact hstep
  | write reg v =>
      cases reg with
      | arg => exact hoff.elim
      | cmd => exact hoff.elim
      | _ => exact hstep
  | read reg =>
      cases reg with
      | resp i =>
          match i, hresp, r, hstep with
          | 0, hresp, _, _ => exact absurd rfl hresp
          | 1, _, _, hstep => exact hstep
          | 2, _, _, hstep => exact hstep
          | 3, _, _, hstep => exact hstep
      | _ => exact hstep
  | _ => exact hstep

theorem wp_offRecord {e : SdioEvent} {Q : e.Response → SdGlobals → TalkRecord → Prop}
    (hoff : OffRecord e) (h : ∀ r, Q r g s) : (perform e).wp (transcript need) D Q g s := by
  refine ⟨hoff.1.transcript_req, ?_⟩
  intro r s₁ hstep
  have hsame : s₁ = s := hoff.same hstep
  subst hsame
  exact h r

theorem wp_clearFlagSdio_transcript {flag : BitVec 32}
    {Q : Unit → SdGlobals → TalkRecord → Prop} (h : Q () g s) :
    (clearFlagSdio flag).wp (transcript need) D Q g s := by
  refine wp_bind.2 (wp_offRecord ⟨trivial, by simp⟩ ?_)
  intro icr
  exact wp_offRecord ⟨trivial, by simp⟩ fun _ => h

theorem wp_readSta_transcript {Q : BitVec 32 → SdGlobals → TalkRecord → Prop}
    (h : ∀ sta, Q sta g (s.polled sta)) : (readSta .cmdResp).wp (transcript need) D Q g s := by
  refine ⟨trivial, ?_⟩
  rintro (sta : BitVec 32) s₁ hstep
  have hpolled : s₁ = s.polled sta := hstep
  subst hpolled
  exact h sta

theorem wp_readResp0_transcript {Q : BitVec 32 → SdGlobals → TalkRecord → Prop}
    (h : ∀ w, Q w g (s.add (.heard (.word w)))) :
    (readReg (.resp 0)).wp (transcript need) D Q g s := by
  refine ⟨trivial, ?_⟩
  rintro (w : BitVec 32) s₁ hstep
  have hheard : s₁ = s.add (.heard (.word w)) := hstep
  subst hheard
  exact h w

/-! ## What the driver takes in -/

theorem wp_waitResponse_transcript :
    (waitResponse fuel).wp (transcript need) (fun _ => True)
      (fun w g' s' => hasFlag w responseFlags = true ∧ g' = g ∧ s' = s.polled w) g s := by
  unfold waitResponse
  -- An empty poll leaves the record as it is.
  refine wp_iter (fun _ g' s' => g' = g ∧ s' = s) ?_ (fun _ _ _ _ => trivial) fuel ⟨rfl, rfl⟩
  rintro _ g₁ s₁ ⟨rfl, rfl⟩
  refine wp_bind.2 (wp_readSta_transcript ?_)
  intro w
  split
  · rename_i hflag
    exact ⟨hflag, rfl, rfl⟩
  · rename_i hflag
    have hnone : hasFlag w responseFlags = false := Bool.not_eq_true _ ▸ hflag
    have htimeout : hasFlag w sdioStaCtimeout = false := hasFlag_part_false (by decide) hnone
    have hcrc : hasFlag w sdioStaCcrcfail = false := hasFlag_part_false (by decide) hnone
    refine ⟨rfl, ?_⟩
    rw [TalkRecord.polled, htimeout, hcrc]
    rfl

theorem wp_answerStatus_transcript {onTimeout onCrc : BitVec 32}
    {Q : Int → SdGlobals → TalkRecord → Prop}
    (htimeout : Q errorWaitTime g (s.add (.heard .timeout)))
    (hcrc : Q errorCrc g (s.add (.heard .crcFailure))) (hword : Q 0 g s) :
    (answerStatus fuel onTimeout onCrc).wp (transcript need) (fun _ => True) Q g s := by
  unfold answerStatus
  refine wp_seq wp_waitResponse_transcript ?_
  rintro sta g₁ s₁ ⟨_, rfl, rfl⟩
  unfold TalkRecord.polled
  split
  · exact wp_bind.2 (wp_clearFlagSdio_transcript htimeout)
  · split
    · exact wp_bind.2 (wp_clearFlagSdio_transcript hcrc)
    · exact wp_bind.2 (wp_clearFlagSdio_transcript hword)

/-- An R1 command takes in one answer. -/
theorem wp_cmdResp1Error_transcript {cs : CardStatus}
    {Q : Int × CardStatus → SdGlobals → TalkRecord → Prop}
    (h : ∀ x : Answer, Q (x.status, x.copied cs) (x.recorded g) (s.add (.heard x))) :
    (cmdResp1Error fuel cs).wp (transcript need) (fun _ => True) Q g s := by
  unfold cmdResp1Error
  refine wp_bind.2 (wp_answerStatus_transcript ?_ ?_ ?_)
  · exact h .timeout
  · exact h .crcFailure
  · exact wp_bind.2 (wp_readResp0_transcript fun w => h (.word w))

theorem wp_sendStatusSd_transcript {cs : CardStatus}
    {Q : Int × CardStatus → SdGlobals → TalkRecord → Prop}
    (hneed : need s.entries (statusQuery g))
    (h : ∀ x : Answer, Q (x.queryStatus, x.copied cs) (x.recorded g)
      { arg := (statusQuery g).arg
        entries := .heard x :: .sent (statusQuery g) :: s.entries }) :
    (sendStatusSd fuel cs).wp (transcript need) (fun _ => True) Q g s := by
  unfold sendStatusSd
  simp only [wp_bind, wp_globals, wp_sendCommandSdio_transcript]
  refine ⟨hneed, wp_cmdResp1Error_transcript ?_⟩
  intro x
  have hx := h x
  unfold Answer.queryStatus at hx
  split
  · rename_i hfailed
    rw [if_pos hfailed] at hx
    exact hx
  · rename_i hanswered
    rw [if_neg hanswered] at hx
    exact hx

/-! ## Waiting for the card -/

theorem Answer.sameCard_recorded (x : Answer) (g : SdGlobals) : SameCard g (x.recorded g) := by
  cases x <;> exact ⟨rfl, rfl, rfl⟩

/-- What a status of 0, `READY_FOR_DATA` and `TRAN` after a query say of its answer: the fields
that `wait_card_ready` reads are those of this answer, not of an earlier one. -/
theorem Answer.ready_of_query {x : Answer} {cs : CardStatus}
    (hstatus : x.queryStatus = 0) (hready : CardStatus.readyForData (x.copied cs) = true)
    (hstate : (x.recorded g).sd.state = tranState) : x.Ready := by
  unfold Answer.queryStatus at hstatus
  split at hstatus
  · exact absurd hstatus (by decide)
  · cases x with
    | timeout => exact absurd hstatus (by decide)
    | crcFailure => exact absurd hstatus (by decide)
    | word w =>
        have hcopied := CardStatus.readyForData_copyFields cs w
        exact ⟨w, rfl, hstatus, hcopied.symm.trans hready, hstate⟩

/-- `wait_card_ready` has come back with `status`: a status of 0 means that the last answer says
that the card is ready. -/
structure Waited (g : SdGlobals) (s : TalkRecord) (status : Int) (g' : SdGlobals)
    (s' : TalkRecord) : Prop where
  card : SameCard g g'
  nonpos : status ≤ 0
  entries : ∃ later, s'.entries = later ++ s.entries ∧
    (status = 0 → ∃ x rest, later = .heard x :: rest ∧ x.Ready)
  state : status = 0 → g'.sd.state = tranState

theorem wp_waitCardReady_transcript
    (hneed : ∀ entries g', SameCard g g' → need entries (statusQuery g')) :
    (waitCardReady fuel).wp (transcript need) (fun _ => True) (Waited g s) g s := by
  have hloop : ∀ (attempts : Nat) (cs : CardStatus) (g₁ : SdGlobals) (s₁ : TalkRecord),
      SameCard g g₁ → (∃ later, s₁.entries = later ++ s.entries) →
      (waitCardReadyLoop fuel attempts cs).wp (transcript need) (fun _ => True) (Waited g s)
        g₁ s₁ := by
    intro attempts
    induction attempts with
    | zero =>
        rintro cs g₁ s₁ hcard ⟨later, hlater⟩
        have hbusy : errorSdBusyTimeout ≠ 0 := by decide
        have hneg : errorSdBusyTimeout ≤ 0 := by decide
        exact ⟨hcard, hneg, ⟨later, hlater, fun h => absurd h hbusy⟩,
          fun h => absurd h hbusy⟩
    | succ attempts ih =>
        rintro cs g₁ s₁ hcard ⟨later, hlater⟩
        rw [waitCardReadyLoop]
        -- A query and what was heard go on top of the record.
        refine wp_bind.2 (wp_sendStatusSd_transcript (hneed _ _ hcard) ?_)
        intro x
        dsimp only
        have hcard' : SameCard g (x.recorded g₁) := hcard.trans (x.sameCard_recorded g₁)
        have hentries :
            Entry.heard x :: .sent (statusQuery g₁) :: s₁.entries =
              (.heard x :: .sent (statusQuery g₁) :: later) ++ s.entries := by
          rw [hlater, List.cons_append, List.cons_append]
        split
        · have hfailed : errorResponce ≠ 0 := by decide
          have hneg : errorResponce ≤ 0 := by decide
          exact ⟨hcard', hneg, ⟨_, hentries, fun h => absurd h hfailed⟩,
            fun h => absurd h hfailed⟩
        · refine wp_bind.2 (wp_globals.2 ?_)
          split
          · rename_i hdone
            rcases hdone with ⟨hstatus, hready, hstate⟩
            have hx : x.Ready := Answer.ready_of_query hstatus hready hstate
            exact ⟨hcard', Int.le_refl 0, ⟨_, hentries, fun _ => ⟨x, _, rfl, hx⟩⟩, fun _ => hstate⟩
          · refine wp_bind.2 (wp_offRecord ⟨trivial, by simp⟩ fun _ => ?_)
            exact ih _ _ _ hcard' ⟨_, hentries⟩
  exact hloop 500 0#32 g s ⟨rfl, rfl, rfl⟩ ⟨[], rfl⟩

/-! ## A transfer without errors -/

/-- Commands are answered, and the data path is at its end. -/
def successSta : StaSite → BitVec 32
  | .cmdResp => sdioStaCmdrend
  | .dataLoop _ => sdioStaDataend ||| sdioStaDbckend
  | _ => 0#32

/-- Every answer says "ready". -/
def successAnswer (s : TalkRecord) (e : SdioEvent) : e.Response × TalkRecord :=
  (SdioEvent.ready successSta e, s.next e (SdioEvent.ready successSta e))

theorem successAnswer_allowed {need : List Entry → SentCommand → Prop} (s : TalkRecord)
    (e : SdioEvent) :
    (transcript need).step s e (successAnswer s e).1 (successAnswer s e).2 := rfl

end Driver
end SdioFat32
