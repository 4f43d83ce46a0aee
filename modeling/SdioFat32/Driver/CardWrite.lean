import SdioFat32.Driver.CardRead

/-!
# CardWrite — what the write functions store on the card

While a loop of a write polls, the words pushed so far are the start of the buffer, the card has
taken some of them, and the blocks it has stored are the first ones (`Writing`).  A loop that
ends has stopped the path: with `DATAEND` all blocks are stored, and otherwise a test finds the
error.
-/

namespace SdioFat32
namespace Driver

open Effects Cells Proc Relation

variable {byteAddressed : Bool} {g : SdGlobals} {s s' : CardState} {t : DataTransfer}
  {fuel k n : Nat} {mem : Memory 32 (BitVec 8)} {card : Nat → BitVec 8}
  {data address timeout length : BitVec 32} {st : BitVec 32 × Int}

/-- The flags that concern a write. -/
def txStaticFlags : BitVec 32 := testFlags txExitTests ||| rxEndFlags

/-- The bytes of the card, with `k` blocks of the buffer stored from byte `first` on. -/
def written (mem : Memory 32 (BitVec 8)) (card : Nat → BitVec 8) (data : BitVec 32)
    (first k : Nat) : Nat → BitVec 8 := fun a =>
  if first ≤ a ∧ a < first + 512 * k then mem (nth data (a - first)) else card a

structure Writing (mem : Memory 32 (BitVec 8)) (card : Nat → BitVec 8) (data : BitVec 32)
    (t : DataTransfer) (n : Nat) (s : CardState) : Prop where
  noStartError : hasFlag s.flags sdioStaStbiterr = false
  memory : s.mem = mem
  sending : s.receiving = false
  transfer : s.transfer = none ∨ s.transfer = some t
  dlen : s.dlen.toNat % 2 ^ 25 = 512 * n
  words : ∀ i, i < s.pushed.length → s.pushed.getD i 0#32 = wordAt mem (nth data (4 * i))
  pushed : s.pushed.length ≤ 128 * n
  consumed : s.consumed ≤ s.pushed.length
  stored : 128 * s.stored ≤ s.consumed
  bytes : s.card = written mem card data t.first s.stored
  ended : hasFlag s.flags rxEndFlags = true → s.stored = n
  alert : s.enabled = true → hasFlag s.flags txStaticFlags = false

/-- The loop goes on at `st`. -/
structure Sends (mem : Memory 32 (BitVec 8)) (card : Nat → BitVec 8) (data : BitVec 32)
    (t : DataTransfer) (n : Nat) (st : BitVec 32 × Int) (s : CardState) : Prop extends
    Writing mem card data t n s where
  pointer : st.1 = nth data (4 * s.pushed.length)
  remaining : st.2 = 4 * ((128 * n : Nat) - s.pushed.length : Int)

/-! ## Storing a block -/

/-- A byte of the words that were pushed is a byte of the buffer. -/
theorem Writing.streamByte (h : Writing mem card data t n s) {i : Nat}
    (hi : i < 4 * s.pushed.length) :
    Cells.streamByte (fun j => s.pushed.getD j 0#32) i = mem (nth data i) := by
  have hword := h.words (i / 4) (by omega)
  have hindex : 4 * (i / 4) + i % 4 = i := Nat.div_add_mod i 4
  have hmod : i % 4 < 4 := Nat.mod_lt _ (by decide)
  calc
    Cells.streamByte (fun j => s.pushed.getD j 0#32) i
        = wordByte (wordAt mem (nth data (4 * (i / 4)))) (i % 4) := by
          rw [Cells.streamByte, hword]
    _ = mem (nth (nth data (4 * (i / 4))) (i % 4)) := wordByte_ofBytes hmod
    _ = mem (nth data i) := by rw [nth_nth, hindex]

theorem Writing.storeBlock (h : Writing mem card data t n s)
    (hblock : 128 * (s.stored + 1) ≤ s.consumed) :
    s.storeBlock t.first = written mem card data t.first (s.stored + 1) := by
  have hconsumed := h.consumed
  funext a
  unfold CardState.storeBlock
  rw [h.bytes]
  unfold written
  by_cases hnew : t.first + 512 * s.stored ≤ a ∧ a < t.first + 512 * (s.stored + 1)
  · rw [if_pos hnew, if_pos (by omega), h.streamByte (by omega)]
  · rw [if_neg hnew]
    by_cases hold : t.first ≤ a ∧ a < t.first + 512 * s.stored
    · rw [if_pos hold, if_pos (by omega)]
    · rw [if_neg hold, if_neg (by omega)]

theorem Writing.proceeds (h : Writing mem card data t n s) (hstep : Proceeds s s') :
    Writing mem card data t n s' := by
  have hnot : s.receiving ≠ true := by simp [h.sending]
  have hnoStart := hstep.noStartError h.noStartError
  have hstored := h.stored
  have hconsumed := h.consumed
  have hpushed := h.pushed
  have hdlen := h.dlen
  have hsame : ∀ {t' : DataTransfer}, s.transfer = some t' → t' = t := by
    intro t' ht'
    rcases h.transfer with hnone | hsome
    · rw [hnone] at ht'
      cases ht'
    · rw [hsome] at ht'
      cases ht'
      rfl
  have hquiet : s.enabled = true → hasFlag s.flags rxEndFlags = false := fun henabled =>
    hasFlag_part_false (by decide) (h.alert henabled)
  cases hstep with
  | word hword => exact absurd hword.receiving hnot
  | lost hword => exact absurd hword.receiving hnot
  | consume hsending hmore hsingle =>
      exact ⟨hnoStart, h.memory, h.sending, h.transfer, hdlen, h.words, hpushed, hmore,
        Nat.le_succ_of_le hstored, h.bytes, h.ended, h.alert⟩
  | store hsending hblock =>
      cases hsame hsending.transfer
      refine ⟨hnoStart, h.memory, h.sending, h.transfer, hdlen, h.words, hpushed, hconsumed, hblock,
        h.storeBlock hblock, ?_, h.alert⟩
      intro hend
      exact absurd ((hquiet hsending.enabled).symm.trans hend) Bool.false_ne_true
  | fault raised henabled hraised =>
      refine ⟨hnoStart, h.memory, h.sending, h.transfer, hdlen, h.words, hpushed, hconsumed,
        hstored, h.bytes, ?_, fun hon => absurd hon Bool.false_ne_true⟩
      intro hend
      rw [hasFlag_left_or, (fault_apart hraised).1, Bool.or_false] at hend
      exact h.ended hend
  | finish henabled hsome hcomplete =>
      refine ⟨hnoStart, h.memory, h.sending, h.transfer, hdlen, h.words, hpushed, hconsumed,
        hstored, h.bytes, ?_, fun hon => absurd hon Bool.false_ne_true⟩
      intro _
      unfold CardState.Complete at hcomplete
      split at hcomplete
      · exact absurd hcomplete.1 hnot
      -- As many blocks are stored as `DLEN` says, and no more were pushed.
      · dsimp only
        omega

theorem steadfast_writing : Steadfast (Writing mem card data t n) where
  proceeds _ _ hstep h := h.proceeds hstep
  clears s v hv h := by
    refine ⟨hasFlag_clear_false h.noStartError, h.memory, h.sending, h.transfer, h.dlen, h.words,
      h.pushed, h.consumed, h.stored, h.bytes, ?_, fun henabled =>
        hasFlag_clear_false (h.alert henabled)⟩
    intro hend
    exact h.ended ((hasFlag_clear hv (by decide) s.flags).symm.trans hend)
  arg _ _ h := ⟨h.noStartError, h.memory, h.sending, h.transfer, h.dlen, h.words, h.pushed,
    h.consumed, h.stored, h.bytes, h.ended, h.alert⟩

theorem steadfast_sends : Steadfast (Sends mem card data t n st) where
  proceeds s s' hstep h := by
    have hpushed := hstep.fixed.pushed
    refine ⟨h.toWriting.proceeds hstep, ?_, ?_⟩
    · rw [hpushed]
      exact h.pointer
    · rw [hpushed]
      exact h.remaining
  clears s v hv h := ⟨steadfast_writing.clears s v hv h.toWriting, h.pointer, h.remaining⟩
  arg s v h := ⟨steadfast_writing.arg s v h.toWriting, h.pointer, h.remaining⟩

/-! ## The polling loop -/

/-- With room for `m` more words. -/
def Roomy (mem : Memory 32 (BitVec 8)) (card : Nat → BitVec 8) (data : BitVec 32)
    (t : DataTransfer) (n : Nat) (st : BitVec 32 × Int) (m : Nat) (s : CardState) : Prop :=
  Sends mem card data t n st s ∧ s.pushed.length + m ≤ s.consumed + fifoDepth ∧
    s.pushed.length + m ≤ 128 * n

theorem steadfast_roomy {m : Nat} : Steadfast (Roomy mem card data t n st m) where
  proceeds s s' hstep h := by
    have hpushed := hstep.fixed.pushed
    obtain ⟨hsends, hroom, hfits⟩ := h
    refine ⟨steadfast_sends.proceeds s s' hstep hsends, ?_, ?_⟩
    · rw [hpushed]
      cases hstep with
      | consume => exact Nat.le_trans hroom (Nat.add_le_add_right (Nat.le_succ _) _)
      | _ => exact hroom
    · rw [hpushed]
      exact hfits
  clears s v hv h := ⟨steadfast_sends.clears s v hv h.1, h.2⟩
  arg s v h := ⟨steadfast_sends.arg s v h.1, h.2⟩

/-- The next word of the buffer goes into the FIFO. -/
theorem Roomy.push {m : Nat} (h : Roomy mem card data t n st (m + 1) s) :
    Roomy mem card data t n (st.1 + 4#32, st.2 - 4) m (s.push (wordAt mem st.1)) := by
  obtain ⟨hsends, hroom, hfits⟩ := h
  have hremaining := hsends.remaining
  have hconsumed := hsends.consumed
  have hpush : s.push (wordAt mem st.1) = { s with pushed := s.pushed ++ [wordAt mem st.1] } :=
    if_pos (by omega)
  have hlen : (s.pushed ++ [wordAt mem st.1]).length = s.pushed.length + 1 := by simp
  rw [hpush]
  refine ⟨⟨⟨hsends.noStartError, hsends.memory, hsends.sending, hsends.transfer, hsends.dlen, ?_,
    ?_, ?_, hsends.stored, hsends.bytes, hsends.ended, hsends.alert⟩, ?_, ?_⟩, ?_, ?_⟩
  · intro i hi
    rw [hlen] at hi
    dsimp only
    rcases Nat.lt_succ_iff_lt_or_eq.1 hi with hold | rfl
    · rw [List.getD_eq_getElem?_getD, List.getElem?_append_left hold,
        ← List.getD_eq_getElem?_getD]
      exact hsends.words i hold
    · rw [List.getD_eq_getElem?_getD, List.getElem?_concat_length, hsends.pointer]
      rfl
  · dsimp only
    omega
  · dsimp only
    omega
  · have hfour : nth (nth data (4 * s.pushed.length)) 4 = nth data (4 * s.pushed.length + 4) :=
      nth_nth _ _ _
    dsimp only
    rw [hlen, hsends.pointer, Nat.mul_add]
    exact hfour
  · dsimp only
    rw [hlen]
    omega
  · dsimp only
    omega
  · dsimp only
    omega

theorem wp_txBurst_steady (m : Nat) :
    ∀ {st : BitVec 32 × Int} {g : SdGlobals} {s : CardState}, Roomy mem card data t n st m s →
      (txBurst m st).wp (steadyCard byteAddressed) (fun _ => True)
        (fun st' _ s' => Sends mem card data t n st' s' ∧
          s'.pushed.length = s.pushed.length + m) g s := by
  induction m with
  | zero =>
      intro st g s h
      exact ⟨h.1, rfl⟩
  | succ m ih =>
      rintro ⟨tempBuff, dataRemaining⟩ g s h
      unfold txBurst
      refine wp_bind.2 (wp_perform.2 ⟨trivial, ?_⟩)
      rintro w s₁ ⟨_, hdrift₁, rfl, rfl⟩
      have h₁ := steadfast_roomy.drift hdrift₁ h
      refine wp_bind.2 (wp_perform.2 ⟨trivial, ?_⟩)
      rintro _ _ ⟨s₂, hdrift₂, rfl⟩
      have h₂ := steadfast_roomy.drift hdrift₂ h₁
      have hpushed : s₂.pushed = s.pushed :=
        (drift_fixed hdrift₂).pushed.trans (drift_fixed hdrift₁).pushed
      have hroom : s₂.pushed.length < s₂.consumed + fifoDepth := by
        have hmore := h₂.2.1
        omega
      have hone : (s₂.push (wordAt mem tempBuff)).pushed.length = s₂.pushed.length + 1 := by
        simp [CardState.push, hroom]
      rw [h₁.1.memory]
      refine wp_mono (ih h₂.push) ?_
      rintro st' g' s' ⟨hsends, hlen⟩
      refine ⟨hsends, ?_⟩
      rw [hlen, hone, hpushed]
      omega

/-- `k` blocks of the buffer are stored, and memory is as it was. -/
def Kept (mem : Memory 32 (BitVec 8)) (card : Nat → BitVec 8) (data : BitVec 32) (first k : Nat) :
    Frame :=
  fun mem' card' => mem' = mem ∧ card' = written mem card data first k

/-- Between two bursts. -/
def Polls (mem : Memory 32 (BitVec 8)) (card : Nat → BitVec 8) (data : BitVec 32)
    (t : DataTransfer) (n : Nat) (st : BitVec 32 × Int) (s : CardState) : Prop :=
  Sends mem card data t n st s ∧ 8 ∣ 128 * n - s.pushed.length

theorem steadfast_polls : Steadfast (Polls mem card data t n st) where
  proceeds s s' hstep h := by
    refine ⟨steadfast_sends.proceeds s s' hstep h.1, ?_⟩
    rw [hstep.fixed.pushed]
    exact h.2
  clears s v hv h := ⟨steadfast_sends.clears s v hv h.1, h.2⟩
  arg s v h := ⟨steadfast_sends.arg s v h.1, h.2⟩

/-- A loop that has ended has stopped the path. -/
theorem Writing.concluded (h : Writing mem card data t n s)
    (hended : hasFlag s.flags txLoopFlags = true) :
    Concluded (Kept mem card data t.first s.stored) (fun _ => s.stored = n)
      (testFlags txExitTests) s := by
  have hsplit : txLoopFlags = sdioStaStbiterr ||| (txLoopFlags &&& txStaticFlags) := by decide
  have hpart : txStaticFlags &&& (txLoopFlags &&& txStaticFlags) =
      txLoopFlags &&& txStaticFlags := by decide
  have hup : hasFlag s.flags txStaticFlags = true := by
    rw [hsplit, hasFlag_or, h.noStartError, Bool.false_or] at hended
    exact hasFlag_of_part hpart hended
  have hdisabled : s.enabled = false := by
    cases henabled : s.enabled with
    | false => rfl
    | true =>
        have halert := h.alert henabled
        rw [hup] at halert
        cases halert
  refine ⟨⟨h.noStartError, ?_⟩, ⟨h.memory, h.bytes⟩, ?_⟩
  · intro henabled
    exact absurd (hdisabled.symm.trans henabled) Bool.false_ne_true
  · rw [txStaticFlags, hasFlag_or, Bool.or_eq_true] at hup
    rcases hup with herror | hend
    · exact Or.inr herror
    · exact Or.inl ⟨hdisabled, h.ended hend⟩

theorem Writing.stored_le (h : Writing mem card data t n s) : s.stored ≤ n := by
  have hstored := h.stored
  have hconsumed := h.consumed
  have hpushed := h.pushed
  omega

/-- The end of a polling loop of a write. -/
def LoopEnded (mem : Memory 32 (BitVec 8)) (card : Nat → BitVec 8) (data : BitVec 32)
    (first n : Nat) (s : CardState) : Prop :=
  ∃ k, k ≤ n ∧ Concluded (Kept mem card data first k) (fun _ => k = n) (testFlags txExitTests) s

theorem wp_txStep_steady (h : Polls mem card data t n st s) :
    (txStep st).wp (steadyCard byteAddressed) (fun _ => True)
      (fun r _ s' => r.elim (fun st' => Polls mem card data t n st' s')
        (fun _ => LoopEnded mem card data t.first n s')) g s := by
  unfold txStep
  refine wp_seq (wp_readSta_steady steadfast_polls h) ?_
  rintro sta g₁ s₁ ⟨rfl, h₁, hshows⟩
  split
  next hended =>
    have hup : hasFlag s₁.flags txLoopFlags = true :=
      (hshows.hasDataFlag (by decide)).symm.trans hended
    exact ⟨s₁.stored, h₁.1.stored_le, h₁.1.concluded hup⟩
  next =>
    refine wp_seq (wp_readSta_steady steadfast_polls h₁) ?_
    rintro sta' g₂ s₂ ⟨rfl, h₂, hshows'⟩
    split
    next hburst =>
      -- Words remain in multiples of eight, and there is room for eight.
      obtain ⟨hsends, hdvd⟩ := h₂
      have hremaining := hsends.remaining
      have hpushed := hsends.pushed
      have hmore : 0 < st.2 := hburst.2
      have hroomy : Roomy mem card data t n st 8 s₂ :=
        ⟨hsends, hshows'.room hburst.1, by omega⟩
      refine wp_seq (wp_txBurst_steady 8 hroomy) ?_
      rintro st' g₃ s₃ ⟨hsends', hlen⟩
      exact ⟨hsends', by omega⟩
    next => exact h₂

theorem wp_txLoop_steady (hlength : length.toInt = 512 * n)
    (h : Writing mem card data t n s) (hpushed : s.pushed = []) :
    (txLoop fuel data length).wp (steadyCard byteAddressed) (fun _ => True)
      (fun _ _ s' => LoopEnded mem card data t.first n s') g s := by
  have hlen : s.pushed.length = 0 := by rw [hpushed, List.length_nil]
  have hstart : Polls mem card data t n (data, length.toInt) s := by
    refine ⟨⟨h, ?_, ?_⟩, ?_⟩
    · simp [hlen]
    · simp only [hlen]
      omega
    · rw [hlen]
      omega
  unfold txLoop
  exact wp_iter (fun st _ s' => Polls mem card data t n st s')
    (fun st g' s' hst => wp_txStep_steady hst) (fun _ _ _ _ => trivial) fuel hstart

/-- With an error flag up the loop ends at once, and nothing was pushed. -/
theorem wp_txLoop_doomed {F : Frame}
    (h : Concluded F (fun _ => False) (testFlags txExitTests) s) :
    (txLoop fuel data length).wp (steadyCard byteAddressed) (fun _ => True)
      (fun _ _ s' => Concluded F (fun _ => False) (testFlags txExitTests) s') g s := by
  refine wp_mono (wp_loopEnds (fun _ => rfl) (by decide) (by decide) h) ?_
  rintro _ g' s' ⟨_, h'⟩
  exact h'

theorem written_zero {first : Nat} : written mem card data first 0 = card := by
  funext a
  exact if_neg (by omega)

/-- From an armed path. -/
theorem Underway.wp_txLoop (h : Underway mem card t length s) (hwriting : t.reading = false)
    (hdlen : length.toNat % 2 ^ 25 = 512 * n) (hlength : length.toInt = 512 * n) :
    (txLoop fuel data length).wp (steadyCard byteAddressed) (fun _ => True)
      (fun _ _ s' => LoopEnded mem card data t.first n s') g s := by
  cases hflag : hasFlag s.flags (testFlags txExitTests) with
  | true =>
      have hdoomed : Concluded (Kept mem card data t.first 0) (fun _ => False)
          (testFlags txExitTests) s :=
        ⟨h.toHalted, ⟨h.framed.1, h.framed.2.trans written_zero.symm⟩, Or.inr hflag⟩
      refine wp_mono (wp_txLoop_doomed hdoomed) ?_
      intro _ g' s' h'
      exact ⟨0, Nat.zero_le n, h'.of_false⟩
  | false =>
      have hstart : Writing mem card data t n s := by
        refine ⟨h.noStartError, h.framed.1, h.receiving.trans hwriting, h.transfer,
          h.dlen ▸ hdlen, ?_, ?_, ?_, ?_, ?_, ?_, fun _ => ?_⟩
        · intro i hi
          rw [h.pushed] at hi
          cases hi
        · rw [h.pushed]
          exact Nat.zero_le _
        · rw [h.consumed]
          exact Nat.zero_le _
        · rw [h.stored]
          exact Nat.zero_le _
        · rw [h.stored, written_zero]
          exact h.framed.2
        · intro hend
          exact absurd (h.ends.symm.trans hend) Bool.false_ne_true
        · rw [txStaticFlags, hasFlag_or, hflag, h.ends]
          rfl
      exact wp_txLoop_steady hlength hstart h.pushed

/-! ## The write functions -/

theorem txExitTests_data : ∀ t ∈ txExitTests, pathFlags &&& t.1 = t.1 := by decide

theorem txExitTests_codes : ∀ t ∈ txExitTests, t.2 ≠ 0 := by decide

/-- The result of a write: the blocks that were stored are the first ones, and all of them if it
returns 0. -/
def WriteEnds (mem : Memory 32 (BitVec 8)) (card : Nat → BitVec 8) (data : BitVec 32)
    (first n : Nat) (status : Int) (s : CardState) : Prop :=
  ∃ k, k ≤ n ∧ ClosedWith (Kept mem card data first k) (fun _ => k = n) status s

theorem wp_txFinish_steady {first : Nat} (h : LoopEnded mem card data first n s) :
    (txFinish fuel).wp (steadyCard byteAddressed) (fun _ => True)
      (fun status _ s' => WriteEnds mem card data first n status s') g s := by
  obtain ⟨k, hk, h⟩ := h
  unfold txFinish
  refine wp_seq (wp_exitTests_steady txExitTests_data txExitTests_codes h) ?_
  rintro status g₁ s₁ (⟨rfl, h₁⟩ | ⟨hfailed, h₁⟩)
  · rw [if_neg (by decide)]
    refine wp_seq (wp_clearPassing h₁) ?_
    intro _ g₂ s₂ h₂
    refine wp_mono (wp_waitCardReady_ended (G := fun _ => k = n) h₂) ?_
    intro status' g₃ s₃ h₃
    exact ⟨k, hk, h₃⟩
  · rw [if_pos hfailed]
    exact ⟨k, hk, ClosedWith.of_ne h₁ hfailed⟩

/-- A write that failed before its loop. -/
theorem writeEnds_of_restsWith {first : Nat} {status : Int} (h : RestsWith (AsBefore mem card) s)
    (hstatus : status ≠ 0) : WriteEnds mem card data first n status s :=
  ⟨0, Nat.zero_le n,
    ClosedWith.of_ne ⟨h.toRests, h.framed.1, h.framed.2.trans written_zero.symm⟩ hstatus⟩

theorem wp_writeSingleBlockSd_steady (h : Rests s) :
    (writeSingleBlockSd fuel data 512#32 address timeout).wp (steadyCard byteAddressed)
      (fun _ => True) (fun status _ s' => WriteEnds s.mem s.card data
        (firstByte byteAddressed (cardAddress g address)) 1 status s') g s := by
  unfold writeSingleBlockSd
  rw [if_neg (by decide), wp_bind, wp_globals]
  let t : DataTransfer := ⟨false, true, firstByte byteAddressed (cardAddress g address)⟩
  refine wp_seq (wp_disable_steady (t := t) h) ?_
  rintro _ g₁ s₁ ⟨_, h₁⟩
  -- The card is asked for its state before the path is armed.
  refine wp_seq (indifferent_parked.survives.wp_waitCardReady h₁) ?_
  intro status g₂ s₂ h₂
  split
  next hfailed => exact writeEnds_of_restsWith h₂.toRestsWith hfailed
  next =>
    refine wp_seq (wp_sdioConfigData_steady (by decide) rfl (by decide) h₂) ?_
    rintro _ g₃ s₃ ⟨h₃, _⟩
    refine wp_seq (wp_sendDataCommand_steady commandable_armed rfl h₃) ?_
    intro _ g₄ s₄ h₄
    refine wp_seq (commandable_armed.survives.wp_cmdResp1Error h₄) ?_
    rintro ⟨status', cs⟩ g₅ s₅ h₅
    dsimp only
    split
    next =>
      have hne : (-1 : Int) ≠ 0 := by decide
      exact writeEnds_of_restsWith h₅.toRestsWith hne
    next =>
      refine wp_seq (h₅.wp_txLoop (n := 1) rfl (by decide) (by decide)) ?_
      intro _ g₆ s₆ h₆
      exact wp_txFinish_steady h₆

theorem wp_writeMultiBlockSd_steady {countBlocks : BitVec 32} (hcount : 2 ≤ countBlocks.toNat)
    (hle : countBlocks.toNat ≤ 65535) (h : Rests s) :
    (writeMultiBlockSd fuel data countBlocks address timeout).wp (steadyCard byteAddressed)
      (fun _ => True) (fun status _ s' => WriteEnds s.mem s.card data
        (firstByte byteAddressed (cardAddress g address)) countBlocks.toNat status s') g s := by
  have hbytes : (512#32 * countBlocks).toNat = 512 * countBlocks.toNat := by
    rw [BitVec.toNat_mul, BitVec.toNat_ofNat]
    omega
  have hint : (512#32 * countBlocks).toInt = 512 * countBlocks.toNat := by
    rw [BitVec.toInt_eq_toNat_of_lt (by omega), hbytes]
    rfl
  unfold writeMultiBlockSd
  dsimp only
  rw [if_neg (not_le_one hcount), wp_bind, wp_globals]
  let t : DataTransfer := ⟨false, false, firstByte byteAddressed (cardAddress g address)⟩
  refine wp_seq (wp_disable_steady (t := t) h) ?_
  rintro _ g₁ s₁ ⟨_, h₁⟩
  refine wp_seq (wp_sdioConfigData_steady (by decide) rfl (by rw [hbytes, fifoDepth]; omega)
    h₁) ?_
  rintro _ g₂ s₂ ⟨h₂, _⟩
  refine wp_seq (wp_sendDataCommand_steady commandable_armed rfl h₂) ?_
  intro _ g₃ s₃ h₃
  refine wp_seq (commandable_armed.survives.wp_cmdResp1Error h₃) ?_
  rintro ⟨status, cs⟩ g₄ s₄ h₄
  dsimp only
  split
  next =>
    -- Only the command flags are cleared here, and the path stays armed.
    refine wp_seq (wp_clearFlagsSdio_steady commandable_armed.toSteadfast (J := Underway _ _ t _)
      (fun s hs => commandable_armed.clears s _ cmdFlags_apart hs) h₄) ?_
    intro _ g₅ s₅ h₅
    have hne : (-1 : Int) ≠ 0 := by decide
    exact writeEnds_of_restsWith h₅.toRestsWith hne
  next =>
    refine wp_seq (h₄.wp_txLoop rfl (by rw [hbytes]; omega) hint) ?_
    rintro _ g₅ s₅ ⟨k, hk, h₅⟩
    refine wp_seq (wp_stopTransmission_steady (by decide) h₅) ?_
    rintro stopped g₆ s₆ (⟨rfl, h₆⟩ | ⟨hfailed, h₆⟩)
    · rw [if_neg (by decide)]
      exact wp_txFinish_steady ⟨k, hk, h₆⟩
    · rw [if_pos hfailed]
      exact ⟨k, hk, ClosedWith.of_ne h₆ hfailed⟩

end Driver
end SdioFat32
