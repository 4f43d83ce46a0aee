import SdioFat32.Driver.Identification
import SdioFat32.Driver.Transcript

/-!
# BusyWait — what `CmdResp1bError` waits for

A card may be busy after it has answered an R1b command.  `CmdResp1bError` asks for the status of
the card only if the answer itself did not come; an answer without an error ends it at once.

* `BusyEnded`: a later answer says that the card is ready;
* `BusyWaited`: the answer to the command, and what was heard after it;
* `firstAppCmd`: what `init_sd_card` knows of the card when it sends its first `CMD55`.
-/

namespace SdioFat32
namespace Driver

open Effects Proc

/-- One of these answers says that the card is ready. -/
def BusyEnded (later : List Entry) : Prop := ∃ x, .heard x ∈ later ∧ x.Ready

theorem not_busyEnded_nil : ¬BusyEnded [] := by
  rintro ⟨x, hx, _⟩
  exact absurd hx (List.not_mem_nil)

/-- What follows the answer `own` of the command itself. -/
structure BusyWaited (s : TalkRecord) (own : Answer) (later : List Entry) (status : Int)
    (s' : TalkRecord) : Prop where
  entries : s'.entries = later ++ .heard own :: s.entries
  nonpos : status ≤ 0
  /-- An answer without an error: nothing is asked any more. -/
  answered : own.ErrorFree → status = 0 ∧ later = []
  unanswered : ¬own.ErrorFree → status = 0 → BusyEnded later

theorem Answer.status_nonpos (x : Answer) : x.status ≤ 0 := by
  cases x with
  | timeout => decide
  | crcFailure => decide
  | word w => exact r1Error_nonpos w

variable {need : List Entry → SentCommand → Prop} {g : SdGlobals} {s : TalkRecord} {fuel : Nat}

theorem wp_cmdResp1bError_transcript {cs : CardStatus}
    (hneed : ∀ entries g', SameCard g g' → need entries (statusQuery g')) :
    (cmdResp1bError fuel cs).wp (transcript need) (fun _ => True)
      (fun r g' s' => SameCard g g' ∧ ∃ own later, BusyWaited s own later r.1 s') g s := by
  unfold cmdResp1bError
  refine wp_bind.2 (wp_cmdResp1Error_transcript ?_)
  intro own
  have hcard : SameCard g (own.recorded g) := own.sameCard_recorded g
  dsimp only
  split
  · rename_i hzero
    have hfree : own.ErrorFree := Answer.status_eq_zero.1 hzero
    exact ⟨hcard, own, [], rfl, own.status_nonpos, fun _ => ⟨hzero, rfl⟩,
      fun hnot => absurd hfree hnot⟩
  · rename_i hne
    have hfailed : ¬own.ErrorFree := fun hfree => hne (Answer.status_eq_zero.2 hfree)
    split
    · exact ⟨hcard, own, [], rfl, own.status_nonpos, fun hfree => absurd hfree hfailed,
        fun _ hzero => absurd hzero hne⟩
    · -- Only here the status of the card is asked for.
      refine wp_bind.2 (wp_mono (wp_waitCardReady_transcript ?_) ?_)
      · exact fun entries g' hsame => hneed entries g' (hcard.trans hsame)
      · intro status g' s' hwaited
        rcases hwaited.entries with ⟨later, hlater, hlast⟩
        refine ⟨hcard.trans hwaited.card, own, later, hlater, hwaited.nonpos,
          fun hfree => absurd hfree hfailed, ?_⟩
        intro _ hzero
        rcases hlast hzero with ⟨x, rest, rfl, hx⟩
        exact ⟨x, by simp, hx⟩

/-- With a status of 0, the card is heard to be ready exactly if its own answer was not good. -/
theorem BusyWaited.ended_iff {own : Answer} {later : List Entry} {status : Int} {s' : TalkRecord}
    (h : BusyWaited s own later status s') (hzero : status = 0) :
    BusyEnded later ↔ ¬own.ErrorFree := by
  constructor
  · intro hended hfree
    exact not_busyEnded_nil ((h.answered hfree).2 ▸ hended)
  · intro hfailed
    exact h.unanswered hfailed hzero

theorem BusyWaited.claim_iff {own : Answer} {later : List Entry} {status : Int} {s' : TalkRecord}
    (h : BusyWaited s own later status s') :
    (status = 0 → BusyEnded later) ↔ ¬own.ErrorFree := by
  constructor
  · intro hclaim hfree
    exact (h.ended_iff (h.answered hfree).1).1 (hclaim (h.answered hfree).1) hfree
  · intro hfailed hzero
    exact h.unanswered hfailed hzero

/-! ## `init_sd_card` -/

/-- No `CMD55` was sent yet. -/
def NoAppCmd (entries : List Entry) : Prop :=
  ∀ c : SentCommand, .sent c ∈ entries → c.word ≠ appCmdWord

/-- Since `CMD7` and its own answer, the card was heard to be ready exactly if that answer was
not good. -/
def SelectedThen (entries : List Entry) : Prop :=
  ∃ later own c before, entries = later ++ .heard own :: .sent c :: before ∧
    c.word = commandWord cmdSelectCard sdioCmdShortResp ∧ (BusyEnded later ↔ ¬own.ErrorFree)

/-- What is shown of the entries when the first `CMD55` is sent. -/
def firstAppCmd (entries : List Entry) (c : SentCommand) : Prop :=
  c.word = appCmdWord → NoAppCmd entries → SelectedThen entries

theorem firstAppCmd_of_ne {entries : List Entry} {c : SentCommand} (h : c.word ≠ appCmdWord) :
    firstAppCmd entries c :=
  fun happ => absurd happ h

/-- A `CMD55` was sent. -/
def AppCmdSent (s : TalkRecord) : Prop :=
  ∃ c : SentCommand, .sent c ∈ s.entries ∧ c.word = appCmdWord

theorem mem_next_entries {entry : Entry} {e : SdioEvent} {r : e.Response}
    (h : entry ∈ s.entries) : entry ∈ (s.next e r).entries := by
  cases e with
  | sta site =>
      cases site with
      | cmdResp =>
          show entry ∈ (s.polled r).entries
          -- A poll of the answer records at most one more entry.
          unfold TalkRecord.polled
          split
          · exact List.mem_cons_of_mem _ h
          · split
            · exact List.mem_cons_of_mem _ h
            · exact h
      | _ => exact h
  | write reg v =>
      cases reg with
      | cmd => exact List.mem_cons_of_mem _ h
      | _ => exact h
  | read reg =>
      cases reg with
      | resp i =>
          match i, r with
          | 0, _ => exact List.mem_cons_of_mem _ h
          | 1, _ => exact h
          | 2, _ => exact h
          | 3, _ => exact h
      | _ => exact h
  | _ => exact h

theorem transcript_req_of_need {e : SdioEvent} (h : ∀ c, need s.entries c) :
    (transcript need).req s e := by
  cases e with
  | write reg v =>
      cases reg with
      | cmd => exact h _
      | _ => trivial
  | _ => trivial

/-- Once a `CMD55` was sent, nothing more is to be shown. -/
theorem wp_of_appCmdSent {α : Type} {p : SdProc α} (h : AppCmdSent s) :
    p.wp (transcript firstAppCmd) (fun _ => True) (fun _ _ s' => AppCmdSent s') g s := by
  have hneed : ∀ s : TalkRecord, AppCmdSent s → ∀ c, firstAppCmd s.entries c := by
    rintro s ⟨c, hc, hword⟩ _ _ hnone
    exact absurd hword (hnone c hc)
  refine wp_of_step ?_ (fun _ _ => trivial) h
  intro s e hs
  refine ⟨transcript_req_of_need (hneed s hs), ?_⟩
  rintro r s' rfl
  rcases hs with ⟨c, hc, hword⟩
  exact ⟨c, mem_next_entries hc, hword⟩

/-- The answer to `CMD9` is taken in without a `CMD55`. -/
theorem emits_loadCsdSd :
    (loadCsdSd fuel).Emits (Dialogue fun word => word ≠ appCmdWord) True := by
  have hread : ∀ data : Vector (BitVec 32) 4,
      (sdioReadLongResp data 16#16).Emits (Dialogue fun word => word ≠ appCmdWord) True := by
    intro data
    refine emits_ite (emits_pure _) ?_
    repeat' first
      | exact emits_pure _
      | exact emits_perform trivial
      | refine (emits_perform trivial).bind fun _ => ?_
  have hanswer : (cmdResp2Error fuel .csd).Emits (Dialogue fun word => word ≠ appCmdWord) True := by
    refine Emits.bind (emits_answerStatus.mono fun _ he => he.dialogue) fun status => ?_
    refine emits_ite (emits_pure _) (emits_globals.bind fun g => (hread _).bind fun words => ?_)
    exact (emits_assign _).bind fun _ => emits_pure _
  refine emits_globals.bind fun g => (emits_sendCommandSdio (by decide)).bind fun _ => ?_
  refine hanswer.bind fun status => emits_ite (emits_pure _) (emits_globals.bind fun g => ?_)
  refine emits_ite (emits_pure _) (emits_ite ?_ (emits_ite ?_ (emits_pure _)))
  · exact (emits_assign _).bind fun _ => emits_pure _
  · refine (emits_assign _).bind fun _ => emits_globals.bind fun g => ?_
    exact (emits_assign _).bind fun _ => emits_pure _

theorem wp_loadCsdSd_transcript :
    (loadCsdSd fuel).wp (transcript firstAppCmd) (fun _ => True) (fun _ _ _ => True) g s := by
  refine wp_frame emits_loadCsdSd ?_ (fun _ _ _ => trivial) trivial
  intro s e _ he
  refine ⟨?_, fun _ _ _ => trivial⟩
  cases e with
  | write reg v =>
      cases reg with
      | cmd => exact firstAppCmd_of_ne he
      | _ => trivial
  | _ => trivial

/-- The first command of `send_command_specific` is `CMD55`. -/
theorem wp_sendCommandSpecific_first {appCmd arg formatResp : BitVec 32}
    (h : SelectedThen s.entries) :
    (sendCommandSpecific fuel appCmd arg formatResp).wp (transcript firstAppCmd) (fun _ => True)
      (fun _ _ s' => AppCmdSent s') g s := by
  have hloop : ∀ cs : CardStatus,
      (appCmdLoop fuel 8 cs).wp (transcript firstAppCmd) (fun _ => True)
        (fun _ _ s' => AppCmdSent s') g s := by
    intro cs
    refine wp_bind.2 (wp_globals.2 (wp_bind.2 ?_))
    refine wp_sendCommandSdio_transcript.2 ⟨fun _ _ => h, ?_⟩
    exact wp_of_appCmdSent ⟨_, List.mem_cons_self, rfl⟩
  refine wp_bind.2 (wp_offRecord ⟨trivial, by simp⟩ fun csPattern => ?_)
  refine wp_seq (hloop csPattern) ?_
  intro status g₁ s₁ hsent
  exact wp_of_appCmdSent hsent

theorem wp_initSdCard_transcript :
    (initSdCard fuel).wp (transcript firstAppCmd) (fun _ => True) (fun _ _ _ => True) g s := by
  refine wp_seq wp_loadCsdSd_transcript ?_
  intro loaded g₁ s₁ _
  split
  · trivial
  refine wp_bind.2 (wp_globals.2 (wp_bind.2 (wp_sendCommandSdio_transcript.2 ⟨?_, ?_⟩)))
  · exact firstAppCmd_of_ne (show commandWord cmdSelectCard sdioCmdShortResp ≠ appCmdWord by decide)
  have hquery : ∀ (entries : List Entry) (g' : SdGlobals),
      firstAppCmd entries (statusQuery g') := fun entries g' =>
    firstAppCmd_of_ne (show commandWord cmdSendStatus sdioCmdShortResp ≠ appCmdWord by decide)
  refine wp_seq (wp_cmdResp1bError_transcript fun entries g' _ => hquery entries g') ?_
  rintro ⟨status, cs⟩ g₂ s₂ ⟨_, own, later, hwaited⟩
  dsimp only
  split
  · trivial
  split
  · trivial
  rename_i hnotneg
  have hzero : status = 0 := Int.le_antisymm hwaited.nonpos (Int.not_lt.1 hnotneg)
  have hselected : SelectedThen s₂.entries :=
    ⟨later, own, _, _, hwaited.entries, rfl, hwaited.ended_iff hzero⟩
  refine wp_seq (wp_sendCommandSpecific_first hselected) ?_
  intro sent g₃ s₃ hsent
  exact wp_mono (wp_of_appCmdSent hsent) fun _ _ _ _ => trivial

/-! ## When the wait has happened -/

/-- A card that keeps answering "busy": no error, not ready for data, in the state `STBY`. -/
def busyAnswer (s : TalkRecord) (e : SdioEvent) : e.Response × TalkRecord :=
  let r : e.Response :=
    match e with
    | .read _ => (0x600#32 : BitVec 32)
    | e => SdioEvent.ready (fun _ => sdioStaCmdrend) e
  (r, s.next e r)

theorem busyAnswer_allowed (s : TalkRecord) (e : SdioEvent) :
    (transcript anyCommand).step s e (busyAnswer s e).1 (busyAnswer s e).2 := rfl

/-- `CmdResp1bError` returns 0 on a busy card, and `init_sd_card` sends `CMD55` to it. -/
theorem r1b_passes_busy_card :
    (∃ cs g' s', Runs (transcript anyCommand) (cmdResp1bError 1 0#32 blankGlobals) .start
      ((0, cs), g') s' ∧ ¬BusyEnded s'.entries) ∧
    ∃ k s', Reaches (transcript anyCommand) (initSdCard 1 blankGlobals) .start
      (.op (.write .cmd appCmdWord) k) s' ∧ ¬BusyEnded s'.entries := by
  have hbusy : ¬IsReady 0x600#32 := by decide
  refine ⟨?_, ?_⟩
  · -- `CmdResp1bError` alone.
    have hexec : ((cmdResp1bError 1 0#32 blankGlobals).exec busyAnswer .start).map
        (fun x => (x.1.1, x.2.entries)) = some ((0, 0#32), [.heard (.word 0x600#32)]) := by
      decide +kernel
    rcases Prog.exec_ends (fun s : TalkRecord => s.entries) busyAnswer_allowed hexec with
      ⟨g', s', hrun, hentries⟩
    refine ⟨0#32, g', s', hrun, ?_⟩
    rintro ⟨x, hx, w, rfl, hready⟩
    rw [hentries] at hx
    simp only [List.mem_singleton, Entry.heard.injEq, Answer.word.injEq] at hx
    exact hbusy (hx ▸ hready)
  · -- In `init_sd_card`, up to the write of the next command.
    have hstop : (((initSdCard 1 blankGlobals).after busyAnswer 17 .start).1.next?,
        ((initSdCard 1 blankGlobals).after busyAnswer 17 .start).2.entries) =
        (some (.write .cmd appCmdWord),
          [.heard (.word 0x600#32), .sent ⟨commandWord cmdSelectCard sdioCmdShortResp, 0#32⟩,
            .heard (.word 0x600#32), .sent ⟨commandWord cmdSendCsd sdioCmdLongResp, 0#32⟩]) := by
      decide +kernel
    rcases Prog.after_stops (fun s : TalkRecord => s.entries) busyAnswer_allowed 17 hstop with
      ⟨k, s', hreach, hentries⟩
    refine ⟨k, s', hreach, ?_⟩
    rintro ⟨x, hx, w, rfl, hready⟩
    rw [hentries] at hx
    simp only [List.mem_cons, Entry.heard.injEq, Answer.word.injEq, reduceCtorEq, List.not_mem_nil,
      or_false, false_or, or_self] at hx
    exact hbusy (hx ▸ hready)

/-- What was heard after the answer to the command says "ready" whenever `CmdResp1bError` returns
0, exactly if that answer was not an error-free one; and the same decides what `init_sd_card` has
heard of the card when it sends its first `CMD55`. -/
theorem r1b_waits_iff_unanswered (fuel : Nat) (g : SdGlobals) (s : TalkRecord) :
    (∀ (cs cs' : CardStatus) (status : Int) (g' : SdGlobals) (s' : TalkRecord),
      Runs (transcript anyCommand) (cmdResp1bError fuel cs g) s ((status, cs'), g') s' →
      ∃ own later, s'.entries = later ++ .heard own :: s.entries ∧
        ((status = 0 → BusyEnded later) ↔ ¬own.ErrorFree)) ∧
    ∀ (k : Unit → Prog SdioEvent SdioEvent.Response (Int × SdGlobals)) (s' : TalkRecord),
      Reaches (transcript anyCommand) (initSdCard fuel g) s (.op (.write .cmd appCmdWord) k) s' →
      NoAppCmd s'.entries → SelectedThen s'.entries := by
  refine ⟨?_, ?_⟩
  · intro cs cs' status g' s' hrun
    rcases wp_runs (wp_cmdResp1bError_transcript fun _ _ _ => trivial) hrun with
      ⟨_, own, later, hwaited⟩
    exact ⟨own, later, hwaited.entries, hwaited.claim_iff⟩
  · intro k s' hreach hnone
    exact Prog.wp_req wp_initSdCard_transcript (reaches_transcript hreach) rfl hnone

/-- A card that does not answer `CMD7` in time and is ready at the first query. -/
def lateAnswer (s : TalkRecord) (e : SdioEvent) : e.Response × TalkRecord :=
  let selecting : SentCommand := ⟨commandWord cmdSelectCard sdioCmdShortResp, 0#32⟩
  let sta := if s.entries.head? = some (.sent selecting) then sdioStaCtimeout else sdioStaCmdrend
  (SdioEvent.ready (fun _ => sta) e, s.next e (SdioEvent.ready (fun _ => sta) e))

theorem lateAnswer_allowed (s : TalkRecord) (e : SdioEvent) :
    (transcript anyCommand).step s e (lateAnswer s e).1 (lateAnswer s e).2 := rfl

/-- `CMD7` is not answered in time, and the wait takes place. -/
theorem r1b_waits_iff_unanswered_late :
    (∃ cs' g' s', Runs (transcript anyCommand) (cmdResp1bError 1 0#32 blankGlobals)
        ⟨0#32, [.sent ⟨commandWord cmdSelectCard sdioCmdShortResp, 0#32⟩]⟩ ((0, cs'), g') s' ∧
      ∃ own later, s'.entries = later ++ .heard own ::
          [.sent ⟨commandWord cmdSelectCard sdioCmdShortResp, 0#32⟩] ∧
        (((0 : Int) = 0 → BusyEnded later) ↔ ¬own.ErrorFree)) ∧
    ∃ k s', Reaches (transcript anyCommand) (initSdCard 1 blankGlobals) .start
      (.op (.write .cmd appCmdWord) k) s' ∧ SelectedThen s'.entries := by
  refine ⟨?_, ?_⟩
  · -- `CmdResp1bError` alone, when the command is answered late.
    have hexec : ((cmdResp1bError 1 0#32 blankGlobals).exec lateAnswer
        ⟨0#32, [.sent ⟨commandWord cmdSelectCard sdioCmdShortResp, 0#32⟩]⟩).map
          (fun x => x.1.1) = some (0, 0#32) := by
      decide +kernel
    rcases Prog.exec_returns lateAnswer_allowed hexec with ⟨g', s', hrun⟩
    exact ⟨0#32, g', s', hrun, (r1b_waits_iff_unanswered 1 _ _).1 0#32 0#32 0 g' s' hrun⟩
  · -- In `init_sd_card` the status is then asked for.
    have hstop : (((initSdCard 1 blankGlobals).after lateAnswer 22 .start).1.next?,
        ((initSdCard 1 blankGlobals).after lateAnswer 22 .start).2.entries) =
        (some (.write .cmd appCmdWord),
          [.heard (.word 0x900#32), .sent ⟨commandWord cmdSendStatus sdioCmdShortResp, 0#32⟩,
            .heard .timeout, .sent ⟨commandWord cmdSelectCard sdioCmdShortResp, 0#32⟩,
            .heard (.word 0x900#32), .sent ⟨commandWord cmdSendCsd sdioCmdLongResp, 0#32⟩]) := by
      decide +kernel
    rcases Prog.after_stops (fun s : TalkRecord => s.entries) lateAnswer_allowed 22 hstop with
      ⟨k, s', hreach, hentries⟩
    refine ⟨k, s', hreach, (r1b_waits_iff_unanswered 1 _ _).2 k s' hreach ?_⟩
    rw [hentries]
    intro c hc
    simp only [List.mem_cons, Entry.sent.injEq, reduceCtorEq, List.not_mem_nil, or_false,
      false_or] at hc
    rcases hc with rfl | rfl | rfl <;> decide

end Driver
end SdioFat32
