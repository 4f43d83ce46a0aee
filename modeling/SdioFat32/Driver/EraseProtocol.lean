import SdioFat32.Driver.Capacity
import SdioFat32.Driver.Transcript

/-!
# EraseProtocol — the order of the commands of `erase_sd`

Whatever the card answers, `CMD38` follows only `CMD32` and `CMD33` with the two bounds of the
erase, both answered without an error, and a status of 0 means that `CMD38` was.

* `Located`: the card has just said that it is ready;
* `Armed`: the bounds were sent last, and taken;
* `Erased`: `CMD38` was taken, and the card was ready after it.
-/

namespace SdioFat32
namespace Driver

open Effects Proc

def eraseStartWord : BitVec 32 := commandWord cmdEraseWrBlkStart sdioCmdShortResp
def eraseEndWord : BitVec 32 := commandWord cmdEraseWrBlkEnd sdioCmdShortResp
def eraseWord : BitVec 32 := commandWord cmdErase sdioCmdShortResp

/-- The number that stands for block `n` in a command: a byte address on a card of standard
capacity. -/
def blockArgument (g : SdGlobals) (n : Nat) : Nat := if g.sd.version = .sdsc then n * 512 else n

/-- The last answer says that the card is ready. -/
def Located (entries : List Entry) : Prop :=
  ∃ x rest, entries = .heard x :: rest ∧ x.Ready

/-- The last two commands were `CMD32` and `CMD33` with the bounds of the erase, and both were
answered without an error. -/
def Armed (g : SdGlobals) (a b : BitVec 32) (entries : List Entry) : Prop :=
  ∃ first last x₁ x₂ rest,
    entries = .heard x₂ :: .sent ⟨eraseEndWord, last⟩ :: .heard x₁ ::
      .sent ⟨eraseStartWord, first⟩ :: rest ∧
    x₁.ErrorFree ∧ x₂.ErrorFree ∧
    first.toNat = blockArgument g (min a.toNat b.toNat) ∧
    last.toNat = blockArgument g (max a.toNat b.toNat)

/-- `CMD38` was answered without an error, and the last answer says that the card is ready. -/
def Erased (entries : List Entry) : Prop :=
  ∃ x later x₃ arg rest,
    entries = .heard x :: later ++ .heard x₃ :: .sent ⟨eraseWord, arg⟩ :: rest ∧
    x₃.ErrorFree ∧ x.Ready

/-- What is shown of the entries at each command of an erase. -/
def eraseOrder (g : SdGlobals) (a b : BitVec 32) (entries : List Entry) (c : SentCommand) : Prop :=
  (c.word = eraseStartWord → Located entries) ∧ (c.word = eraseWord → Armed g a b entries)

/-! ## The bounds -/

variable {fuel : Nat} {g g₀ : SdGlobals} {a b : BitVec 32} {s : TalkRecord}

theorem orderAddresses_toNat (a b : BitVec 32) :
    (orderAddresses a b).1.toNat = min a.toNat b.toNat ∧
      (orderAddresses a b).2.toNat = max a.toNat b.toNat := by
  unfold orderAddresses
  split
  · rename_i hlt
    have hle : b.toNat ≤ a.toNat := Nat.le_of_lt (BitVec.lt_def.1 hlt)
    exact ⟨(Nat.min_eq_right hle).symm, (Nat.max_eq_left hle).symm⟩
  · rename_i hnot
    have hle : a.toNat ≤ b.toNat := Nat.not_lt.1 fun hlt => hnot (BitVec.lt_def.2 hlt)
    exact ⟨(Nat.min_eq_left hle).symm, (Nat.max_eq_right hle).symm⟩

theorem cardAddress_toNat {x : BitVec 32} (hfits : g.sd.version = .sdsc → x.toNat * 512 < 2 ^ 32) :
    (cardAddress g x).toNat = blockArgument g x.toNat := by
  unfold cardAddress blockArgument
  split
  · rename_i hsdsc
    rw [BitVec.toNat_mul]
    exact Nat.mod_eq_of_lt (hfits hsdsc)
  · rfl

/-! ## One part after the other -/

theorem eraseOrder_of_ne {entries : List Entry} {c : SentCommand}
    (hstart : c.word ≠ eraseStartWord) (herase : c.word ≠ eraseWord) :
    eraseOrder g a b entries c :=
  ⟨fun h => absurd h hstart, fun h => absurd h herase⟩

theorem eraseOrder_statusQuery (entries : List Entry) (g' : SdGlobals) :
    eraseOrder g a b entries (statusQuery g') := by
  refine eraseOrder_of_ne ?_ ?_
  · show commandWord cmdSendStatus sdioCmdShortResp ≠ eraseStartWord
    decide
  · show commandWord cmdSendStatus sdioCmdShortResp ≠ eraseWord
    decide

theorem wp_waitCardReady_order :
    (waitCardReady fuel).wp (transcript (eraseOrder g₀ a b)) (fun _ => True) (Waited g s) g s :=
  wp_waitCardReady_transcript fun entries g' _ => eraseOrder_statusQuery entries g'

theorem wp_sdPrepareForErase_order :
    (sdPrepareForErase fuel).wp (transcript (eraseOrder g₀ a b)) (fun _ => True)
      (fun _ g' _ => SameCard g g') g s := by
  refine wp_bind.2 (wp_sendStatusSd_transcript (eraseOrder_statusQuery _ _) ?_)
  intro x
  have hcard : SameCard g (x.recorded g) := x.sameCard_recorded g
  dsimp only
  split
  · exact hcard
  refine wp_bind.2 (wp_globals.2 ?_)
  split
  · -- The card is sent back to `TRAN`.
    refine wp_bind.2 (wp_sendCommandSdio_transcript.2 ⟨?_, ?_⟩)
    · exact eraseOrder_of_ne (show commandWord cmdStopTransmission sdioCmdShortResp ≠ _ by decide)
        (show commandWord cmdStopTransmission sdioCmdShortResp ≠ _ by decide)
    · refine wp_seq wp_waitCardReady_order ?_
      intro status g₁ s₁ hwaited
      have hcard' := hcard.trans hwaited.card
      split
      · exact hcard'
      · exact hcard'
  · exact hcard

/-- One command of an erase: a status of 0 means that it was answered without an error. -/
theorem wp_sendEraseCommand_order {command arg : BitVec 32}
    (hneed : eraseOrder g₀ a b s.entries ⟨commandWord command sdioCmdShortResp, arg⟩) :
    (sendEraseCommand fuel command arg).wp (transcript (eraseOrder g₀ a b)) (fun _ => True)
      (fun status g' s' => SameCard g g' ∧ ∃ x, s'.entries = .heard x ::
        .sent ⟨commandWord command sdioCmdShortResp, arg⟩ :: s.entries ∧
        (status = 0 → x.ErrorFree)) g s := by
  refine wp_bind.2 (wp_sendCommandSdio_transcript.2 ⟨hneed, ?_⟩)
  refine wp_bind.2 (wp_cmdResp1Error_transcript ?_)
  intro x
  have hcard : SameCard g (x.recorded g) := x.sameCard_recorded g
  dsimp only
  split
  · refine wp_bind.2 (wp_offRecord ⟨trivial, by simp⟩ fun _ => ?_)
    have hfailed : (-1 : Int) ≠ 0 := by decide
    exact ⟨hcard, x, rfl, fun h => absurd h hfailed⟩
  · rename_i hstatus
    exact ⟨hcard, x, rfl, fun _ => Answer.status_eq_zero.1 (not_not.1 hstatus)⟩

/-- Both bounds have arrived, and neither of them wraps. -/
theorem armed_of_bounds {g₁ : SdGlobals} {first last : BitVec 32} {x₁ x₂ : Answer}
    {rest : List Entry} (hfits : g.sd.version = .sdsc → max a.toNat b.toNat * 512 < 2 ^ 32)
    (hmin : first.toNat = min a.toNat b.toNat) (hmax : last.toNat = max a.toNat b.toNat)
    (hcard : SameCard g g₁) (hfree₁ : x₁.ErrorFree) (hfree₂ : x₂.ErrorFree) :
    Armed g a b (.heard x₂ :: .sent ⟨eraseEndWord, cardAddress g₁ last⟩ :: .heard x₁ ::
      .sent ⟨eraseStartWord, cardAddress g₁ first⟩ :: rest) := by
  have hle : min a.toNat b.toNat ≤ max a.toNat b.toNat :=
    Nat.le_trans (Nat.min_le_left _ _) (Nat.le_max_left _ _)
  refine ⟨_, _, x₁, x₂, rest, rfl, hfree₁, hfree₂, ?_, ?_⟩
  · rw [hcard.cardAddress, cardAddress_toNat ?_, hmin]
    intro hsdsc
    rw [hmin]
    exact Nat.lt_of_le_of_lt (Nat.mul_le_mul_right 512 hle) (hfits hsdsc)
  · rw [hcard.cardAddress, cardAddress_toNat ?_, hmax]
    intro hsdsc
    rw [hmax]
    exact hfits hsdsc

theorem wp_eraseSd_order
    (hfits : g.sd.version = .sdsc → max a.toNat b.toNat * 512 < 2 ^ 32) :
    (eraseSd fuel a b).wp (transcript (eraseOrder g a b)) (fun _ => True)
      (fun status _ s' => status = 0 → Erased s'.entries) g s := by
  rcases orderAddresses_toNat a b with ⟨hmin, hmax⟩
  unfold eraseSd
  generalize orderAddresses a b = bounds at hmin hmax ⊢
  rcases bounds with ⟨first, last⟩
  refine wp_seq wp_sdPrepareForErase_order ?_
  intro prepared g₁ s₁ hcard₁
  refine wp_guard (fun hne h => absurd h hne) fun _ => ?_
  refine wp_bind.2 (wp_offRecord ⟨trivial, by simp⟩ fun _ => wp_bind.2 (wp_globals.2 ?_))
  generalize readCsdData g₁.csdData CsdType.zero = register
  rcases register with ⟨status, csd⟩
  have hfailed : (-1 : Int) ≠ 0 := by decide
  have hrefused : (1 : Int) ≠ 0 := by decide
  refine wp_guard (fun _ h => absurd h hfailed) fun _ => ?_
  refine wp_guard (fun _ h => absurd h hrefused) fun _ => ?_
  -- The card is asked until it is ready.
  refine wp_seq wp_waitCardReady_order ?_
  intro waited g₂ s₂ hwaited
  refine wp_guard (fun hne h => absurd h hne) fun hzero => ?_
  rcases hwaited.entries with ⟨later, hlater, hlast⟩
  rcases hlast (not_not.1 hzero) with ⟨x, rest, rfl, hready⟩
  have hnever : eraseStartWord ≠ eraseWord := by decide
  have hlocated : Located s₂.entries := ⟨x, _, hlater, hready⟩
  -- The bounds, the lower one first.
  refine wp_seq (wp_sendEraseCommand_order ⟨fun _ => hlocated, fun h => absurd h hnever⟩) ?_
  rintro status₃ g₃ s₃ ⟨_, x₁, hs₃, hx₁⟩
  refine wp_guard (fun hne h => absurd h hne) fun hzero₃ => ?_
  have hend : eraseOrder g a b s₃.entries ⟨eraseEndWord, cardAddress g₁ last⟩ :=
    eraseOrder_of_ne (show eraseEndWord ≠ eraseStartWord by decide)
      (show eraseEndWord ≠ eraseWord by decide)
  refine wp_seq (wp_sendEraseCommand_order hend) ?_
  rintro status₄ g₄ s₄ ⟨_, x₂, hs₄, hx₂⟩
  refine wp_guard (fun hne h => absurd h hne) fun hzero₄ => ?_
  have harmed : Armed g a b s₄.entries := by
    rw [hs₄, hs₃]
    exact armed_of_bounds hfits hmin hmax hcard₁ (hx₁ (not_not.1 hzero₃)) (hx₂ (not_not.1 hzero₄))
  refine wp_seq (wp_sendEraseCommand_order
    ⟨fun h => absurd h (show eraseWord ≠ eraseStartWord by decide), fun _ => harmed⟩) ?_
  rintro status₅ g₅ s₅ ⟨_, x₃, hs₅, hx₃⟩
  refine wp_guard (fun hne h => absurd h hne) fun hzero₅ => ?_
  have hfree₃ : x₃.ErrorFree := hx₃ (not_not.1 hzero₅)
  refine wp_bind.2 (wp_offRecord ⟨trivial, by simp⟩ fun _ => ?_)
  refine wp_bind.2 (wp_offRecord ⟨trivial, by simp⟩ fun _ => ?_)
  refine wp_mono wp_waitCardReady_order ?_
  intro status₆ g₆ s₆ hdone hzero₆
  rcases hdone.entries with ⟨later₆, hlater₆, hlast₆⟩
  rcases hlast₆ hzero₆ with ⟨x₆, rest₆, rfl, hready₆⟩
  exact ⟨x₆, rest₆, x₃, 0#32, s₄.entries, by rw [hlater₆, hs₅]; rfl, hfree₃, hready₆⟩

/-- For every pair of blocks, every state of the driver and every sequence of answers. -/
theorem erase_protocol (fuel : Nat) (a b : BitVec 32) (g : SdGlobals)
    (hfits : g.sd.version = .sdsc → max a.toNat b.toNat * 512 < 2 ^ 32) :
    (∀ k s', Reaches (transcript anyCommand) (eraseSd fuel a b g) .start
      (.op (.write .cmd eraseWord) k) s' → Armed g a b s'.entries) ∧
    (∀ k s', Reaches (transcript anyCommand) (eraseSd fuel a b g) .start
      (.op (.write .cmd eraseStartWord) k) s' → Located s'.entries) ∧
    ∀ g' s', Runs (transcript anyCommand) (eraseSd fuel a b g) .start (0, g') s' →
      Erased s'.entries := by
  have horder : (eraseSd fuel a b).wp (transcript (eraseOrder g a b)) (fun _ => True)
      (fun status _ s' => status = 0 → Erased s'.entries) g .start := wp_eraseSd_order hfits
  refine ⟨?_, ?_, ?_⟩
  · intro k s' hreach
    exact (Prog.wp_req horder (reaches_transcript hreach)).2 rfl
  · intro k s' hreach
    exact (Prog.wp_req horder (reaches_transcript hreach)).1 rfl
  · intro g' s' hrun
    exact wp_runs horder (runs_transcript hrun) rfl

/-- A card of standard capacity whose register has the class bits that are tested. -/
def standardCard : SdGlobals :=
  { blankGlobals with
    sd := { blankGlobals.sd with version := .sdsc }
    csdData := csdOf7680MB }

/-- The blocks 5 to 3, in the wrong order. -/
theorem erase_protocol_swapped :
    (∃ k s', Reaches (transcript anyCommand) (eraseSd 1 5#32 3#32 standardCard) .start
      (.op (.write .cmd eraseWord) k) s' ∧ Armed standardCard 5#32 3#32 s'.entries) ∧
    (∃ k s', Reaches (transcript anyCommand) (eraseSd 1 5#32 3#32 standardCard) .start
      (.op (.write .cmd eraseStartWord) k) s' ∧ Located s'.entries) ∧
    ∃ g' s', Runs (transcript anyCommand) (eraseSd 1 5#32 3#32 standardCard) .start (0, g') s' ∧
      Erased s'.entries := by
  have herase : ((eraseSd 1 5#32 3#32 standardCard).after successAnswer 26 .start).1.next? =
      some (.write .cmd eraseWord) := by
    decide +kernel
  have hstart : ((eraseSd 1 5#32 3#32 standardCard).after successAnswer 14 .start).1.next? =
      some (.write .cmd eraseStartWord) := by
    decide +kernel
  refine ⟨?_, ?_, ?_⟩
  · rcases Prog.after_op successAnswer_allowed 26 herase with ⟨k, hreach⟩
    exact ⟨k, _, hreach, (erase_protocol 1 5#32 3#32 standardCard (by decide)).1 k _ hreach⟩
  · rcases Prog.after_op successAnswer_allowed 14 hstart with ⟨k, hreach⟩
    exact ⟨k, _, hreach, (erase_protocol 1 5#32 3#32 standardCard (by decide)).2.1 k _ hreach⟩
  · have hexec : ((eraseSd 1 5#32 3#32 standardCard).exec successAnswer .start).map
        (fun x => x.1.1) = some 0 := by
      decide +kernel
    rcases Prog.exec_returns successAnswer_allowed hexec with ⟨g', s', hrun⟩
    exact ⟨g', s', hrun, (erase_protocol 1 5#32 3#32 standardCard (by decide)).2.2 g' s' hrun⟩

end Driver
end SdioFat32
