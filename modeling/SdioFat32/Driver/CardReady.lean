import SdioFat32.Driver.ScriptedCard

/-!
# CardReady — a status of 0 means that the card is ready

`wait_card_ready` sends at most 500 `CMD13`; what it returns is a function of their answers.  The
block functions and `erase_sd` end in it, and every other way out of them has a status that is
not 0.

* `WaitEnds`: how the loop ends, one constructor for each way;
* `Confirms`: a procedure whose status 0 comes after an answer that says "ready".
-/

namespace SdioFat32
namespace Driver

open Effects Proc

/-! ## The answers that decide -/

/-- No word came, or a word whose first error is `COM_CRC_ERROR`. -/
def Answer.Failed (x : Answer) : Prop :=
  x = .timeout ∨ x = .crcFailure ∨ ∃ w, x = .word w ∧ r1Error w = errorCrc

/-- `wait_card_ready` asks again. -/
def Answer.Undecided (x : Answer) : Prop := ¬x.Failed ∧ ¬x.Ready

theorem firstError_mem (w : BitVec 32) (checks : List (Nat × Int)) :
    firstError w checks = 0 ∨ ∃ c ∈ checks, firstError w checks = c.2 := by
  induction checks with
  | nil => exact Or.inl rfl
  | cons c checks ih =>
      rcases c with ⟨bit, error⟩
      rw [firstError]
      split
      · exact Or.inr ⟨(bit, error), by simp, rfl⟩
      · rcases ih with hnone | ⟨c, hc, hfirst⟩
        · exact Or.inl hnone
        · exact Or.inr ⟨c, by simp [hc], hfirst⟩

/-- An R1 word has no error that stands for a wait without an answer. -/
theorem r1Error_ne {w : CardStatus} {status : Int} (hzero : status ≠ 0)
    (hnone : ∀ c ∈ r1Checks, c.2 ≠ status) : r1Error w ≠ status := by
  intro hstatus
  rcases firstError_mem w r1Checks with hok | ⟨c, hc, hfirst⟩
  · exact hzero (hstatus.symm.trans hok)
  · exact hnone c hc (hfirst.symm.trans hstatus)

theorem Answer.queryStatus_eq_errorResponce {x : Answer} :
    x.queryStatus = errorResponce ↔ x.Failed := by
  unfold Answer.queryStatus
  cases x with
  | timeout => exact iff_of_true (by decide) (Or.inl rfl)
  | crcFailure => exact iff_of_true (by decide) (Or.inr (Or.inl rfl))
  | word w =>
      have htime : r1Error w ≠ errorWaitTime := r1Error_ne (by decide) (by decide)
      have hresponce : r1Error w ≠ errorResponce := r1Error_ne (by decide) (by decide)
      constructor
      · intro h
        split at h
        · rename_i hstatus
          exact Or.inr (Or.inr ⟨w, rfl, hstatus.resolve_left htime⟩)
        · exact absurd h hresponce
      · rintro (hx | hx | ⟨w', hx, hcrc⟩)
        · cases hx
        · cases hx
        · cases hx
          exact if_pos (Or.inr hcrc)

/-- The test of `wait_card_ready` passes exactly on an answer that says "ready". -/
theorem Answer.ready_iff_query {x : Answer} {cs : CardStatus} {g : SdGlobals} :
    (x.queryStatus = 0 ∧ CardStatus.readyForData (x.copied cs) = true ∧
      (x.recorded g).sd.state = tranState) ↔ x.Ready := by
  constructor
  · rintro ⟨hstatus, hready, hstate⟩
    exact Answer.ready_of_query hstatus hready hstate
  · rintro ⟨w, rfl, herror, hready, hstate⟩
    refine ⟨?_, (CardStatus.readyForData_copyFields cs w).trans hready, hstate⟩
    have hstatus : (Answer.word w).status = 0 := herror
    unfold Answer.queryStatus
    rw [hstatus]
    decide

theorem Answer.Ready.not_failed {x : Answer} (h : x.Ready) : ¬x.Failed := by
  rcases h with ⟨w, rfl, herror, _⟩
  rintro (hx | hx | ⟨w', hx, hcrc⟩)
  · cases hx
  · cases hx
  · cases hx
    exact absurd (herror.symm.trans hcrc) (by decide)

/-- How `wait_card_ready` ends from query `k` on with `attempts` queries left: the status, and
the number of queries that were sent. -/
inductive WaitEnds (o : Nat → Answer) : Nat → Nat → Int → Nat → Prop where
  | exhausted (k : Nat) : WaitEnds o 0 k errorSdBusyTimeout 0
  | failed {attempts k : Nat} : (o k).Failed → WaitEnds o (attempts + 1) k errorResponce 1
  | ready {attempts k : Nat} : (o k).Ready → WaitEnds o (attempts + 1) k 0 1
  | again {attempts k queries : Nat} {status : Int} :
      (o k).Undecided → WaitEnds o attempts (k + 1) status queries →
        WaitEnds o (attempts + 1) k status (queries + 1)

/-- The first answer that decides, if there is one among `attempts`. -/
theorem WaitEnds.cases {o : Nat → Answer} {attempts k queries : Nat} {status : Int}
    (h : WaitEnds o attempts k status queries) :
    (∃ j < attempts, (∀ i < j, (o (k + i)).Undecided) ∧ queries = j + 1 ∧
      ((o (k + j)).Ready ∧ status = 0 ∨ (o (k + j)).Failed ∧ status = errorResponce)) ∨
    ((∀ i < attempts, (o (k + i)).Undecided) ∧ queries = attempts ∧
      status = errorSdBusyTimeout) := by
  induction h with
  | exhausted k => exact Or.inr ⟨fun i hi => absurd hi (Nat.not_lt_zero i), rfl, rfl⟩
  | failed hfailed =>
      exact Or.inl ⟨0, Nat.succ_pos _, fun i hi => absurd hi (Nat.not_lt_zero i), rfl,
        Or.inr ⟨hfailed, rfl⟩⟩
  | ready hready =>
      exact Or.inl ⟨0, Nat.succ_pos _, fun i hi => absurd hi (Nat.not_lt_zero i), rfl,
        Or.inl ⟨hready, rfl⟩⟩
  | @again attempts k queries status hfirst hrest ih =>
      -- The answers from `k + 1` on, and the one at `k` before them.
      have hshift : ∀ {n : Nat}, (∀ i < n, (o (k + 1 + i)).Undecided) →
          ∀ i < n + 1, (o (k + i)).Undecided := by
        intro n hn i hi
        cases i with
        | zero => exact hfirst
        | succ i =>
            have hi' := hn i (Nat.lt_of_succ_lt_succ hi)
            rwa [Nat.add_right_comm] at hi'
      rcases ih with ⟨j, hj, hbefore, rfl, hend⟩ | ⟨hall, rfl, hstatus⟩
      · refine Or.inl ⟨j + 1, Nat.succ_lt_succ hj, hshift hbefore, rfl, ?_⟩
        rwa [Nat.add_right_comm] at hend
      · exact Or.inr ⟨hshift hall, rfl, hstatus⟩

section Script

variable {delay fuel : Nat} {o : Nat → Answer} {D : TalkState → Prop} {g : SdGlobals}
  {s : TalkState}

theorem statusQuery_recorded (x : Answer) (g : SdGlobals) :
    statusQuery (x.recorded g) = statusQuery g :=
  (x.sameCard_recorded g).statusQuery

theorem wp_waitCardReadyLoop_scripted (hfuel : delay < fuel) (attempts : Nat) (cs : CardStatus) :
    (waitCardReadyLoop fuel attempts cs).wp (answeringCard (scriptedCard delay o)) D
      (fun status _ s' => ∃ queries, WaitEnds o attempts s.sent.length status queries ∧
        s'.sent = List.replicate queries (statusQuery g) ++ s.sent) g s := by
  induction attempts generalizing cs g s with
  | zero => exact ⟨0, .exhausted _, rfl⟩
  | succ attempts ih =>
      rw [waitCardReadyLoop]
      refine wp_seq (wp_sendStatusSd_scripted hfuel rfl) ?_
      rintro r g₁ s₁ ⟨hsent, rfl, rfl⟩
      dsimp only
      split
      · rename_i hfailed
        exact ⟨1, .failed (Answer.queryStatus_eq_errorResponce.1 hfailed), hsent⟩
      · rename_i hanswered
        refine wp_bind.2 (wp_globals.2 ?_)
        split
        · rename_i hdone
          exact ⟨1, .ready (Answer.ready_iff_query.1 hdone), hsent⟩
        · rename_i hbusy
          refine wp_bind.2 (wp_offTalkEvent trivial fun _ => ?_)
          -- Neither an error nor ready: the query is repeated.
          have hundecided : (o s.sent.length).Undecided :=
            ⟨fun h => hanswered (Answer.queryStatus_eq_errorResponce.2 h),
              fun h => hbusy (Answer.ready_iff_query.2 h)⟩
          refine wp_mono (ih _) ?_
          rintro status g' s' ⟨queries, hend, hs'⟩
          have hlength : s₁.sent.length = s.sent.length + 1 := by
            rw [hsent, List.length_cons]
          refine ⟨queries + 1, .again hundecided (hlength ▸ hend), ?_⟩
          calc
            s'.sent = List.replicate queries (statusQuery g) ++ statusQuery g :: s.sent := by
              rw [hs', statusQuery_recorded, hsent]
            _ = List.replicate (queries + 1) (statusQuery g) ++ s.sent := by
              rw [List.replicate_succ', List.append_assoc, List.singleton_append]

end Script

/-! ## Status 0 -/

/-- The last answer says that the card is ready, and `SD.state` agrees. -/
def LastAnswerReady (g : SdGlobals) (s : TalkRecord) : Prop :=
  g.sd.state = tranState ∧ ∃ x rest, s.entries = .heard x :: rest ∧ x.Ready

/-- The procedure returns 0 only with a card that has just said that it is ready. -/
def Confirms (p : SdProc Int) : Prop :=
  ∀ g s, p.wp (transcript anyCommand) (fun _ => True)
    (fun status g' s' => status = 0 → LastAnswerReady g' s') g s

theorem transcript_anyCommand_req (s : TalkRecord) (e : SdioEvent) :
    (transcript anyCommand).req s e := by
  cases e with
  | write reg v => cases reg <;> trivial
  | _ => trivial

section Confirms

variable {α : Type} {fuel : Nat}

/-- What comes last decides. -/
theorem Confirms.after {p : SdProc α} {f : α → SdProc Int} (hf : ∀ x, Confirms (f x)) :
    Confirms (p >>= f) := by
  intro g s
  have htrivial : p.wp (transcript anyCommand) (fun _ => True) (fun _ _ _ => True) g s :=
    wp_of_step (fun s e _ => ⟨transcript_anyCommand_req s e, fun _ _ _ => trivial⟩)
      (fun _ _ => trivial) trivial
  refine wp_seq htrivial ?_
  intro x g₁ s₁ _
  exact hf x g₁ s₁

theorem Confirms.ite {c : Prop} [Decidable c] {p q : SdProc Int} (hp : Confirms p)
    (hq : Confirms q) : Confirms (if c then p else q) := by
  split
  · exact hp
  · exact hq

theorem confirms_error {status : Int} (h : status ≠ 0) : Confirms (pure status) := by
  intro g s hzero
  exact absurd hzero h

/-- `if (status != 0) return status;` -/
theorem Confirms.guard {status : Int} {p : SdProc Int} (hp : Confirms p) :
    Confirms (if status ≠ 0 then pure status else p) := by
  split
  · rename_i hfailed
    exact confirms_error hfailed
  · exact hp

/-- `if (status < 0) return status;` -/
theorem Confirms.guardNeg {status : Int} {p : SdProc Int} (hp : Confirms p) :
    Confirms (if status < 0 then pure status else p) := by
  split
  · rename_i hneg
    exact confirms_error (Int.ne_of_lt hneg)
  · exact hp

theorem confirms_waitCardReady : Confirms (waitCardReady fuel) := by
  intro g s
  refine wp_mono (wp_waitCardReady_transcript fun _ _ _ => trivial) ?_
  intro status g' s' hwaited hzero
  rcases hwaited.entries with ⟨later, hlater, hlast⟩
  rcases hlast hzero with ⟨x, rest, rfl, hx⟩
  exact ⟨hwaited.state hzero, x, rest ++ s.entries, hlater, hx⟩

theorem confirms_txFinish : Confirms (txFinish fuel) :=
  .after fun _ => .guard (.after fun _ => confirms_waitCardReady)

theorem confirms_writeSingleBlockSd {data size address timeout : BitVec 32} :
    Confirms (writeSingleBlockSd fuel data size address timeout) := by
  refine .ite (confirms_error (by decide)) ?_
  refine .after fun g => .after fun _ => .after fun status => .guard ?_
  refine .after fun _ => .after fun _ => .after fun r => .ite (confirms_error (by decide)) ?_
  exact .after fun _ => confirms_txFinish

theorem confirms_readSingleBlockSd {buffer size address timeout : BitVec 32} :
    Confirms (readSingleBlockSd fuel buffer size address timeout) := by
  refine .ite (confirms_error (by decide)) ?_
  refine .after fun _ => .after fun g => .after fun _ => .after fun r => .guardNeg ?_
  refine .after fun _ => .after fun addr => .after fun status => .guard ?_
  exact .after fun _ => .after fun _ => confirms_waitCardReady

theorem confirms_writeMultiBlockSd {data countBlocks address timeout : BitVec 32}
    (hblocks : 1#32 ≤ countBlocks) :
    Confirms (writeMultiBlockSd fuel data countBlocks address timeout) := by
  unfold writeMultiBlockSd
  split
  · -- One block; none is excluded.
    rename_i hle
    rw [if_pos (BitVec.le_antisymm hle hblocks)]
    exact confirms_writeSingleBlockSd
  · refine .after fun g => .after fun _ => .after fun _ => .after fun _ => .after fun r => ?_
    refine .ite (.after fun _ => confirms_error (by decide)) ?_
    exact .after fun _ => .after fun status => .guard confirms_txFinish

theorem confirms_readMultiBlockSd {buffer countBlocks address timeout : BitVec 32}
    (hblocks : 1#32 ≤ countBlocks) :
    Confirms (readMultiBlockSd fuel buffer countBlocks address timeout) := by
  unfold readMultiBlockSd
  split
  · rename_i hle
    rw [if_pos (BitVec.le_antisymm hle hblocks)]
    exact confirms_readSingleBlockSd
  · refine .after fun g => .after fun _ => .after fun _ => .after fun _ => .after fun r => ?_
    refine .ite (confirms_error (by decide)) ?_
    refine .after fun st => .after fun status => .guard (.after fun status => .guard ?_)
    exact .after fun _ => .after fun _ => .after fun _ => confirms_waitCardReady

theorem confirms_eraseSd {addressStart addressEnd : BitVec 32} :
    Confirms (eraseSd fuel addressStart addressEnd) := by
  refine .after fun status => .guard ?_
  refine .after fun _ => .after fun g => .ite (confirms_error (by decide)) ?_
  refine .ite (confirms_error (by decide)) (.after fun status => .guard ?_)
  refine .after fun status => .guard (.after fun status => .guard ?_)
  refine .after fun status => .guard (.after fun _ => .after fun _ => ?_)
  exact confirms_waitCardReady

end Confirms

/-! ## Success -/

/-- The first failure among the first 500 answers, with only undecided ones before it, or none
of the 500 decides. -/
def Unready (o : Nat → Answer) (status : Int) (queries : Nat) : Prop :=
  (∃ k < 500, (o k).Failed ∧ (∀ j < k, (o j).Undecided) ∧ status = errorResponce ∧
    queries = k + 1) ∨
  ((∀ k < 500, (o k).Undecided) ∧ status = errorSdBusyTimeout ∧ queries = 500)

theorem WaitEnds.verdict {o : Nat → Answer} {queries : Nat} {status : Int}
    (h : WaitEnds o 500 0 status queries) :
    (status = 0 ↔ ∃ k < 500, (o k).Ready ∧ ∀ j < k, ¬(o j).Failed) ∧
      (status ≠ 0 → Unready o status queries) := by
  have hends := h.cases
  simp only [Nat.zero_add] at hends
  rcases hends with ⟨j, hj, hbefore, rfl, ⟨hready, rfl⟩ | ⟨hfailed, rfl⟩⟩ | ⟨hall, rfl, rfl⟩
  · refine ⟨iff_of_true rfl ⟨j, hj, hready, fun i hi => (hbefore i hi).1⟩, ?_⟩
    intro hne
    exact absurd rfl hne
  · refine ⟨iff_of_false (by decide) ?_, ?_⟩
    · rintro ⟨k, _, hready, hnone⟩
      rcases Nat.lt_trichotomy k j with hlt | rfl | hgt
      · exact (hbefore k hlt).2 hready
      · exact hready.not_failed hfailed
      · exact hnone j hgt hfailed
    · intro _
      exact Or.inl ⟨j, hj, hfailed, hbefore, rfl, rfl⟩
  · refine ⟨iff_of_false (by decide) ?_, ?_⟩
    · rintro ⟨k, hk, hready, _⟩
      exact (hall k hk).2 hready
    · intro _
      exact Or.inr ⟨hall, rfl, rfl⟩

/-- `wait_card_ready` returns on every card that answers, with 0 exactly if an answer said "ready"
before one failed; and every block function and `erase_sd` that returns 0 ends with such an
answer. -/
theorem success_means_ready :
    (∀ (delay fuel : Nat) (o : Nat → Answer) (g : SdGlobals), delay < fuel →
      (∃ status g' s', Runs (answeringCard (scriptedCard delay o)) (waitCardReady fuel g) .start
        (status, g') s') ∧
      (∀ s', ¬Reaches (answeringCard (scriptedCard delay o)) (waitCardReady fuel g) .start
        .spin s') ∧
      ∀ status g' s', Runs (answeringCard (scriptedCard delay o)) (waitCardReady fuel g) .start
          (status, g') s' →
        (status = 0 ↔ ∃ k < 500, (o k).Ready ∧ ∀ j < k, ¬(o j).Failed) ∧
        (status ≠ 0 → Unready o status s'.sent.length) ∧
        s'.sent = List.replicate s'.sent.length (statusQuery g)) ∧
    (∀ (fuel : Nat) (g g' : SdGlobals) (s s' : TalkRecord),
      (∀ data size address timeout : BitVec 32,
        Runs (transcript anyCommand) (writeSingleBlockSd fuel data size address timeout g) s
          (0, g') s' → LastAnswerReady g' s') ∧
      (∀ buffer size address timeout : BitVec 32,
        Runs (transcript anyCommand) (readSingleBlockSd fuel buffer size address timeout g) s
          (0, g') s' → LastAnswerReady g' s') ∧
      (∀ data countBlocks address timeout : BitVec 32, 1#32 ≤ countBlocks →
        Runs (transcript anyCommand) (writeMultiBlockSd fuel data countBlocks address timeout g) s
          (0, g') s' → LastAnswerReady g' s') ∧
      (∀ buffer countBlocks address timeout : BitVec 32, 1#32 ≤ countBlocks →
        Runs (transcript anyCommand) (readMultiBlockSd fuel buffer countBlocks address timeout g) s
          (0, g') s' → LastAnswerReady g' s') ∧
      ∀ addressStart addressEnd : BitVec 32,
        Runs (transcript anyCommand) (eraseSd fuel addressStart addressEnd g) s
          (0, g') s' → LastAnswerReady g' s') := by
  refine ⟨?_, ?_⟩
  -- The wait itself, against every sequence of answers.
  · intro delay fuel o g hfuel
    have hwait : (waitCardReady fuel).wp (answeringCard (scriptedCard delay o)) (fun _ => False)
        (fun status _ s' => ∃ queries, WaitEnds o 500 0 status queries ∧
          s'.sent = List.replicate queries (statusQuery g) ++ []) g .start :=
      wp_waitCardReadyLoop_scripted hfuel 500 0#32
    refine ⟨?_, fun s' => Prog.wp_not_spin hwait, ?_⟩
    · rcases exists_run hwait scriptedCard_live with ⟨status, g', s', hrun, _⟩
      exact ⟨status, g', s', hrun⟩
    · intro status g' s' hrun
      rcases wp_runs hwait hrun with ⟨queries, hends, hsent⟩
      have hlength : s'.sent.length = queries := by
        rw [hsent, List.append_nil, List.length_replicate]
      rw [hlength]
      exact ⟨hends.verdict.1, hends.verdict.2, hsent.trans (List.append_nil _)⟩
  -- The operations: a status of 0 is that of the wait at their end.
  · intro fuel g g' s s'
    refine ⟨?_, ?_, ?_, ?_, ?_⟩
    · intro data size address timeout hrun
      exact wp_runs (confirms_writeSingleBlockSd g s) hrun rfl
    · intro buffer size address timeout hrun
      exact wp_runs (confirms_readSingleBlockSd g s) hrun rfl
    · intro data countBlocks address timeout hblocks hrun
      exact wp_runs (confirms_writeMultiBlockSd hblocks g s) hrun rfl
    · intro buffer countBlocks address timeout hblocks hrun
      exact wp_runs (confirms_readMultiBlockSd hblocks g s) hrun rfl
    · intro addressStart addressEnd hrun
      exact wp_runs (confirms_eraseSd g s) hrun rfl

/-- A card that is busy at the first query; a block that is written and one that is read. -/
theorem success_means_ready_one_block :
    (∃ status g' s', Runs (answeringCard (scriptedCard 0 fun k =>
        .word (if k = 0 then 0x800#32 else 0x900#32))) (waitCardReady 1 blankGlobals) .start
        (status, g') s' ∧ status = 0) ∧
      (∃ g' s', Runs (transcript anyCommand)
        (writeMultiBlockSd 1 0#32 1#32 0#32 0#32 blankGlobals) .start (0, g') s' ∧
        LastAnswerReady g' s') ∧
      ∃ g' s', Runs (transcript anyCommand)
        (readMultiBlockSd 1 0#32 1#32 0#32 0#32 blankGlobals) .start (0, g') s' ∧
        LastAnswerReady g' s' := by
  refine ⟨?_, ?_, ?_⟩
  · rcases success_means_ready.1 0 1 (fun k => .word (if k = 0 then 0x800#32 else 0x900#32))
      blankGlobals (by decide) with ⟨⟨status, g', s', hrun⟩, _, hverdict⟩
    refine ⟨status, g', s', hrun, (hverdict status g' s' hrun).1.2 ?_⟩
    refine ⟨1, by decide, ⟨0x900#32, rfl, by decide⟩, ?_⟩
    -- The query before it found the card busy, which is no failure.
    intro j hj
    have hzero : j = 0 := Nat.lt_one_iff.1 hj
    subst hzero
    rintro (hx | hx | ⟨w, hx, hcrc⟩)
    · cases hx
    · cases hx
    · cases hx
      exact absurd hcrc (by decide)
  · have hexec : ((writeMultiBlockSd 1 0#32 1#32 0#32 0#32 blankGlobals).exec successAnswer
        .start).map (fun x => x.1.1) = some 0 := by
      decide +kernel
    rcases Prog.exec_returns successAnswer_allowed hexec with ⟨g', s', hrun⟩
    exact ⟨g', s', hrun, (success_means_ready.2 1 blankGlobals g' .start s').2.2.1 0#32 1#32 0#32
      0#32 (by decide) hrun⟩
  · have hexec : ((readMultiBlockSd 1 0#32 1#32 0#32 0#32 blankGlobals).exec successAnswer
        .start).map (fun x => x.1.1) = some 0 := by
      decide +kernel
    rcases Prog.exec_returns successAnswer_allowed hexec with ⟨g', s', hrun⟩
    exact ⟨g', s', hrun, (success_means_ready.2 1 blankGlobals g' .start s').2.2.2.1 0#32 1#32
      0#32 0#32 (by decide) hrun⟩

end Driver
end SdioFat32
