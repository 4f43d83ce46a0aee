import SdioFat32.Driver.FaultFree

/-!
# DmaAgreement — `write_blocks_dma` against `write_multi_block_sd`

Both are run on the same card without faults.  Each delivers the words that follow the address it
reads from, to the block that its own scaling of the address says.  They agree on neither:
`CMAR0` gets the address of the parameter, and an SDHC card counts as one with byte addresses.
-/

namespace SdioFat32
namespace Driver

open Effects Proc

variable {mem : BitVec 32 → BitVec 32} {D : WriteState → Prop} {g : SdGlobals}
  {s s' : WriteState} {fuel : Nat} {α : Type} {I J : WriteState → Prop}

/-! ## A transfer -/

/-- The first `n` words from `src` on, with their addresses. -/
def readFrom (mem : BitVec 32 → BitVec 32) (src : BitVec 32) (n : Nat) :
    List (BitVec 32 × BitVec 32) :=
  (List.range n).map fun i =>
    (src + BitVec.ofNat 32 (4 * i), mem (src + BitVec.ofNat 32 (4 * i)))

variable {src : BitVec 32} {n : Nat} {args : List (BitVec 32)}

theorem readFrom_succ (k : Nat) :
    readFrom mem src (k + 1) = readFrom mem src k ++
      [(src + BitVec.ofNat 32 (4 * k), mem (src + BitVec.ofNat 32 (4 * k)))] := by
  simp [readFrom, List.range_succ]

/-- Nothing was put into the FIFO yet. -/
structure Unfed (args : List (BitVec 32)) (s : WriteState) : Prop where
  pushed : s.pushed = []
  consumed : s.consumed = 0
  inactive : s.active = false
  arguments : s.arguments = args

/-- The words from `src` on go into the FIFO, `n` of them at most. -/
structure Feeding (mem : BitVec 32 → BitVec 32) (src : BitVec 32) (n : Nat)
    (args : List (BitVec 32)) (s : WriteState) : Prop where
  pushed : s.pushed = readFrom mem src s.pushed.length
  le : s.pushed.length ≤ n
  consumed : s.consumed ≤ s.pushed.length
  dlen : s.dlen = 4 * n
  arguments : s.arguments = args
  stream : s.active = true → s.cmar = src ∧ s.cndtr = n ∧ s.copied = s.pushed.length

theorem Unfed.advances (h : Unfed args s) (hadvances : Advances mem s s') : Unfed args s' := by
  cases hadvances with
  | copy hactive =>
      rw [h.inactive] at hactive
      cases hactive
  | consume hmore =>
      rw [h.pushed] at hmore
      cases hmore

theorem lasting_unfed : Lasting mem (Unfed args) where
  advances _ _ hadvances h := h.advances hadvances
  arg _ _ h := ⟨h.pushed, h.consumed, h.inactive, h.arguments⟩

/-- Together with what the registers of the data path and of the stream hold. -/
theorem lasting_unfed_and {R : Nat → BitVec 32 → Nat → Prop} :
    Lasting mem (fun s => Unfed args s ∧ R s.dlen s.cmar s.cndtr) where
  advances s s' hadvances h := by
    refine ⟨h.1.advances hadvances, ?_⟩
    cases hadvances with
    | copy => exact h.2
    | consume => exact h.2
  arg s v h := ⟨⟨h.1.pushed, h.1.consumed, h.1.inactive, h.1.arguments⟩, h.2⟩

theorem Unfed.feeding (h : Unfed args s) (hdlen : s.dlen = 4 * n) :
    Feeding mem src n args s where
  pushed := by
    rw [h.pushed]
    rfl
  le := by
    rw [h.pushed]
    exact Nat.zero_le n
  consumed := by
    rw [h.consumed]
    exact Nat.zero_le _
  dlen := hdlen
  arguments := h.arguments
  stream := fun hactive => by
    rw [h.inactive] at hactive
    cases hactive

/-- A word from the right place. -/
theorem Feeding.next {addr w : BitVec 32} (h : Feeding mem src n args s)
    (haddr : addr = src + BitVec.ofNat 32 (4 * s.pushed.length)) (hw : w = mem addr) :
    s.pushed ++ [(addr, w)] = readFrom mem src (s.pushed ++ [(addr, w)]).length := by
  rw [List.length_append, List.length_singleton, readFrom_succ, ← h.pushed, hw, haddr]

theorem Feeding.advances (h : Feeding mem src n args s) (hadvances : Advances mem s s') :
    Feeding mem src n args s' := by
  have hle := h.le
  have hconsumed := h.consumed
  cases hadvances with
  | copy hactive _ hmore hroom =>
      rcases h.stream hactive with ⟨hcmar, hcndtr, hcopied⟩
      have haddr : s.next = src + BitVec.ofNat 32 (4 * s.pushed.length) := by
        rw [WriteState.next, hcmar, hcopied]
      refine ⟨h.next haddr rfl, ?_, ?_, h.dlen, h.arguments, ?_⟩
      · simp only [List.length_append, List.length_singleton]
        omega
      · simp only [List.length_append, List.length_singleton]
        omega
      · intro _
        refine ⟨hcmar, hcndtr, ?_⟩
        simp only [List.length_append, List.length_singleton]
        omega
  | consume hmore => exact ⟨h.pushed, hle, hmore, h.dlen, h.arguments, h.stream⟩

theorem lasting_feeding : Lasting mem (Feeding mem src n args) where
  advances _ _ hadvances h := h.advances hadvances
  arg _ _ h := ⟨h.pushed, h.le, h.consumed, h.dlen, h.arguments, h.stream⟩

/-- All words have reached the card. -/
def Fed (mem : BitVec 32 → BitVec 32) (src : BitVec 32) (n : Nat) (args : List (BitVec 32))
    (s : WriteState) : Prop :=
  Feeding mem src n args s ∧ s.consumed = n

theorem lasting_fed : Lasting mem (Fed mem src n args) where
  advances s s' hadvances h := by
    refine ⟨h.1.advances hadvances, ?_⟩
    have hle := h.1.le
    have hconsumed := h.2
    cases hadvances with
    | copy => exact hconsumed
    | consume hmore => omega
  arg s v h := ⟨lasting_feeding.arg s v h.1, h.2⟩

theorem Fed.received (h : Fed mem src n args s) : s.received = readFrom mem src n := by
  rcases h with ⟨hfeeding, hconsumed⟩
  have hlen : s.pushed.length = n := by
    have hle := hfeeding.le
    have hbelow := hfeeding.consumed
    omega
  have hpushed := hfeeding.pushed
  rw [hlen] at hpushed
  rw [WriteState.received, hconsumed, List.take_of_length_le (Nat.le_of_eq hlen), hpushed]

/-- Without a fault a loop ends when the card has taken out everything. -/
theorem Feeding.fed {sta : BitVec 32} (h : Feeding mem src n args s)
    (hclean : hasFlag sta faultFlags = false)
    (hdataend : hasFlag sta sdioStaDataend = true → s.dlen ≤ 4 * s.consumed)
    (hended : hasFlag sta txLoopFlags = true) : Fed mem src n args s := by
  have herror : hasFlag sta
      (sdioStaTxunderr ||| sdioStaStbiterr ||| sdioStaDtimeout ||| sdioStaDcrcfail) = false :=
    hasFlag_part_false (by decide) hclean
  unfold txLoopFlags at hended
  rw [hasFlag_or, herror, Bool.false_or] at hended
  have hall := hdataend hended
  have hdlen := h.dlen
  have hle := h.le
  have hconsumed := h.consumed
  exact ⟨h, by omega⟩

/-! ## The polling loop -/

/-- The program has put `k` words into the FIFO, and there is room for `m` more. -/
structure Pushing (mem : BitVec 32 → BitVec 32) (src : BitVec 32) (n : Nat)
    (args : List (BitVec 32)) (k m : Nat) (s : WriteState) : Prop where
  feeding : Feeding mem src n args s
  inactive : s.active = false
  count : s.pushed.length = k
  room : k + m ≤ s.consumed + 32

variable {k m : Nat}

theorem lasting_pushing : Lasting mem (Pushing mem src n args k m) where
  advances s s' hadvances h := by
    have hfeeding := h.feeding.advances hadvances
    have hroom := h.room
    cases hadvances with
    | copy hactive =>
        rw [h.inactive] at hactive
        cases hactive
    | consume => exact ⟨hfeeding, h.inactive, h.count, by dsimp only; omega⟩
  arg s v h := ⟨lasting_feeding.arg s v h.feeding, h.inactive, h.count, h.room⟩

theorem drift_source (h : Relation.ReflTransGen (Advances mem) s s') :
    s'.source = s.source := by
  induction h with
  | refl => rfl
  | tail _ hadvances ih =>
      cases hadvances with
      | copy => exact ih
      | consume => exact ih

/-- Load a word and put it into the FIFO. -/
theorem wp_pushWord {f : SdProc α} {Q : α → SdGlobals → WriteState → Prop} {addr : BitVec 32}
    (haddr : addr = src + BitVec.ofNat 32 (4 * k)) (hk : k < n)
    (h : Pushing mem src n args k (m + 1) s)
    (hf : ∀ g' s', Pushing mem src n args (k + 1) m s' →
      f.wp (faultFreeSdio mem) D Q g' s') :
    (do
      let w ← loadWord addr
      writeReg .fifo w
      f).wp (faultFreeSdio mem) D Q g s := by
  have hload : (loadWord addr).wp (faultFreeSdio mem) D
      (fun w _ s' => w = mem addr ∧ s'.source = addr ∧ Pushing mem src n args k (m + 1) s') g s := by
    refine ⟨trivial, ?_⟩
    rintro w s' ⟨s₁, hdrift, rfl, rfl⟩
    have h₁ := lasting_pushing.drift hdrift h
    have hfeeding := h₁.feeding
    exact ⟨rfl, rfl, ⟨hfeeding.pushed, hfeeding.le, hfeeding.consumed, hfeeding.dlen,
      hfeeding.arguments, hfeeding.stream⟩, h₁.inactive, h₁.count, h₁.room⟩
  refine wp_seq hload ?_
  rintro w g₁ s₁ ⟨rfl, hsource, h₁⟩
  have hpush : (writeReg .fifo (mem addr)).wp (faultFreeSdio mem) D
      (fun _ _ s' => Pushing mem src n args (k + 1) m s') g₁ s₁ := by
    refine ⟨trivial, ?_⟩
    rintro _ s' ⟨s₂, hdrift, rfl⟩
    have h₂ := lasting_pushing.drift hdrift h₁
    have hsource₂ : s₂.source = addr := (drift_source hdrift).trans hsource
    have hcount := h₂.count
    have hroom := h₂.room
    have hle := h₂.feeding.le
    have hconsumed := h₂.feeding.consumed
    -- There is room, since at most 31 words wait in the FIFO.
    have hfits : s₂.pushed.length < s₂.consumed + 32 := by omega
    have hnext : addr = src + BitVec.ofNat 32 (4 * s₂.pushed.length) := by rw [haddr, hcount]
    rw [WriteState.push, if_pos hfits, hsource₂]
    refine ⟨⟨h₂.feeding.next hnext rfl, ?_, ?_, h₂.feeding.dlen, h₂.feeding.arguments, ?_⟩,
      h₂.inactive, ?_, ?_⟩
    · simp only [List.length_append, List.length_singleton]
      omega
    · simp only [List.length_append, List.length_singleton]
      omega
    · intro hactive
      rw [h₂.inactive] at hactive
      cases hactive
    · simp only [List.length_append, List.length_singleton]
      omega
    · dsimp only
      omega
  refine wp_seq hpush ?_
  intro _ g₂ s₂ h₂
  exact hf g₂ s₂ h₂

/-- `temp_buff` and `dataremaining` after `k` words. -/
def polledAt (src : BitVec 32) (n k : Nat) : BitVec 32 × Int :=
  (src + BitVec.ofNat 32 (4 * k), 4 * ((n : Int) - k))

theorem polledAt_succ :
    (src + BitVec.ofNat 32 (4 * k) + 4#32, 4 * ((n : Int) - k) - 4) = polledAt src n (k + 1) := by
  have haddr : src + BitVec.ofNat 32 (4 * k) + 4#32 = src + BitVec.ofNat 32 (4 * (k + 1)) := by
    rw [BitVec.add_assoc, Nat.mul_add, BitVec.ofNat_add]
  have hrest : 4 * ((n : Int) - k) - 4 = 4 * ((n : Int) - ((k + 1 : Nat) : Int)) := by
    push_cast
    omega
  rw [polledAt, haddr, hrest]

theorem wp_txBurst_faultFree (m : Nat) :
    ∀ {k : Nat} {g : SdGlobals} {s : WriteState}, k + m ≤ n → Pushing mem src n args k m s →
      (txBurst m (polledAt src n k)).wp (faultFreeSdio mem) D
        (fun st _ s' => st = polledAt src n (k + m) ∧ Pushing mem src n args (k + m) 0 s') g s := by
  induction m with
  | zero =>
      intro k g s _ h
      exact ⟨rfl, h⟩
  | succ m ih =>
      intro k g s hk h
      refine wp_pushWord rfl (by omega) h ?_
      intro g₁ s₁ h₁
      have hsum : k + 1 + m = k + (m + 1) := by omega
      rw [polledAt_succ, ← hsum]
      exact ih (by omega) h₁

theorem wp_txLoop_faultFree {length : BitVec 32} (hlength : length.toInt = 4 * (n : Int))
    (hn : 8 ∣ n) (h : Pushing mem src n args 0 0 s) :
    (txLoop fuel src length).wp (faultFreeSdio mem) (fun _ => True)
      (fun _ _ s' => Fed mem src n args s') g s := by
  have hstart : (src, length.toInt) = polledAt src n 0 := by
    simp [polledAt, hlength]
  unfold txLoop
  refine wp_iter (fun st _ s' => ∃ k, st = polledAt src n k ∧ 8 ∣ n - k ∧
    Pushing mem src n args k 0 s') ?_ (fun _ _ _ _ => trivial) fuel ⟨0, hstart, hn, h⟩
  rintro st g₁ s₁ ⟨k, rfl, hk, h₁⟩
  unfold txStep
  refine wp_seq (wp_readSta_faultFree lasting_pushing h₁) ?_
  rintro sta g₂ s₂ ⟨rfl, h₂, hclean, hdataend, _⟩
  split
  next hended => exact h₂.feeding.fed hclean hdataend hended
  next =>
    refine wp_seq (wp_readSta_faultFree lasting_pushing h₂) ?_
    rintro sta' g₃ s₃ ⟨rfl, h₃, _, _, hroom⟩
    split
    next hburst =>
      -- A burst is sent only if words remain, and they remain in multiples of eight.
      have hfree := hroom hburst.1
      have hcount := h₃.count
      have hpos : 0 < 4 * ((n : Int) - k) := hburst.2
      have hpolled : Pushing mem src n args k 8 s₃ :=
        ⟨h₃.feeding, h₃.inactive, h₃.count, by omega⟩
      refine wp_seq (wp_txBurst_faultFree 8 (by omega) hpolled) ?_
      rintro st' g₄ s₄ ⟨rfl, h₄⟩
      exact ⟨k + 8, rfl, by omega, h₄⟩
    next => exact ⟨k, rfl, hk, h₃⟩

/-! ## The two functions -/

/-- The data path is configured before either of them sends its command. -/
theorem wp_configure {v length timeout : BitVec 32} (hlength : length.toNat = 4 * n)
    (hn : 4 * n < 2 ^ 25) (h : Unfed args s) :
    (sdioConfigData v length timeout).wp (faultFreeSdio mem) (fun _ => True)
      (fun _ _ s' => Unfed args s' ∧ s'.dlen = 4 * n) g s := by
  unfold sdioConfigData
  refine wp_seq (wp_bystander lasting_unfed (emits_perform trivial) h) ?_
  intro _ g₁ s₁ h₁
  have hdlen : length.toNat % 2 ^ 25 = 4 * n := by rw [hlength, Nat.mod_eq_of_lt hn]
  refine wp_seq (wp_writeDlen_faultFree
    (J := fun s => Unfed args s ∧ s.dlen = 4 * n) lasting_unfed h₁ ?_) ?_
  · intro s hs
    exact ⟨⟨hs.pushed, hs.consumed, hs.inactive, hs.arguments⟩, hdlen⟩
  intro _ g₂ s₂ h₂
  refine wp_writeDctrl_faultFree (lasting_unfed_and (R := fun dlen _ _ => dlen = 4 * n)) h₂ ?_
  intro s hs
  exact ⟨⟨hs.1.pushed, hs.1.consumed, hs.1.inactive, hs.1.arguments⟩, hs.2⟩

theorem emits_stopTransmission_bystander :
    (stopTransmission fuel).Emits Bystander True := by
  have hsend : (sendCommandSdio cmdStopTransmission 0#32 sdioCmdShortResp).Emits
      (Dialogue fun w => w ≠ multiWrite) True := emits_sendCommandSdio (by decide)
  have hanswer : (cmdResp1bError fuel 0#32).Emits (Dialogue fun w => w ≠ multiWrite) True :=
    emits_cmdResp1bError (by decide)
  refine (emits_perform trivial).bind fun sta => emits_ite ?_ (emits_pure _)
  refine (hsend.mono fun e he => he.bystander).bind fun _ => ?_
  refine (hanswer.mono fun e he => he.bystander).bind ?_
  rintro ⟨status, cs⟩
  refine emits_ite ?_ (emits_pure _)
  exact (emits_perform trivial).bind fun _ => emits_pure _

theorem emits_exitTests_bystander {tests : List (BitVec 32 × Int)} :
    (exitTests tests).Emits Bystander True := by
  induction tests with
  | nil => exact emits_pure _
  | cons t tests ih =>
      refine (emits_perform trivial).bind fun sta => emits_ite ?_ ih
      exact (emits_perform trivial).bind fun _ => emits_pure _

/-- The lengths that the two functions compute. -/
theorem bytes_of_count {count : BitVec 32} (hcount : count.toNat ≤ 511) :
    (512#32 * count).toNat = 4 * (128 * count.toNat) := by
  rw [BitVec.toNat_mul]
  simp only [BitVec.toNat_ofNat]
  omega

theorem wp_writeMultiBlockSd_faultFree {data count address timeout : BitVec 32}
    (hpos : 2 ≤ count.toNat) (hcount : count.toNat ≤ 511) (h : Unfed [] s) :
    (writeMultiBlockSd fuel data count address timeout).wp (faultFreeSdio mem) (fun _ => True)
      (fun _ _ s' => Fed mem data (128 * count.toNat) [cardAddress g address] s') g s := by
  have hbytes := bytes_of_count hcount
  have hint : (512#32 * count).toInt = 4 * ((128 * count.toNat : Nat) : Int) := by
    rw [BitVec.toInt_eq_toNat_of_lt (by omega), hbytes]
    push_cast
    omega
  have hlasting : Lasting mem (fun s => Unfed [cardAddress g address] s ∧
      s.dlen = 4 * (128 * count.toNat)) :=
    lasting_unfed_and (R := fun dlen _ _ => dlen = 4 * (128 * count.toNat))
  unfold writeMultiBlockSd
  dsimp only
  rw [if_neg (not_le_one hpos), wp_bind, wp_globals]
  refine wp_seq (wp_writeDctrl_faultFree (J := Unfed []) lasting_unfed h fun s hs =>
    ⟨hs.pushed, hs.consumed, hs.inactive, hs.arguments⟩) ?_
  intro _ g₁ s₁ h₁
  refine wp_seq (wp_configure hbytes (by omega) h₁) ?_
  intro _ g₂ s₂ h₂
  refine wp_seq (wp_sendMultiWrite (J := fun s => Unfed [cardAddress g address] s ∧
    s.dlen = 4 * (128 * count.toNat))
    (lasting_unfed_and (R := fun dlen _ _ => dlen = 4 * (128 * count.toNat))) h₂ ?_) ?_
  · intro s hs
    refine ⟨⟨hs.1.pushed, hs.1.consumed, hs.1.inactive, ?_⟩, hs.2⟩
    dsimp only
    rw [hs.1.arguments]
    rfl
  intro _ g₃ s₃ h₃
  refine wp_seq (wp_cmdResp1Error_faultFree hlasting h₃) ?_
  rintro ⟨status, cs⟩ g₄ s₄ ⟨hstatus, h₄⟩
  have hzero : status = 0 := hstatus
  subst hzero
  -- The command went through, and no word has been pushed yet.
  have hstart : Pushing mem data (128 * count.toNat) [cardAddress g address] 0 0 s₄ := by
    refine ⟨h₄.1.feeding h₄.2, h₄.1.inactive, ?_, Nat.zero_le _⟩
    rw [h₄.1.pushed]
    rfl
  dsimp only
  rw [if_neg (by simp)]
  refine wp_seq (wp_txLoop_faultFree hint (by omega) hstart) ?_
  intro _ g₅ s₅ h₅
  -- What follows the loop sends no further block command and pushes nothing.
  have hrest : ∀ status : Int, (if status ≠ 0 then pure status else txFinish fuel :
      SdProc Int).Emits Bystander True := by
    intro status
    have htalk : (waitCardReady fuel).Emits (Dialogue fun w => w ≠ multiWrite) True :=
      emits_waitCardReady (by decide)
    have hready : (waitCardReady fuel).Emits Bystander True := htalk.mono fun e he => he.bystander
    refine emits_ite (emits_pure _) (emits_exitTests_bystander.bind fun status => ?_)
    refine emits_ite (emits_pure _) ?_
    exact (emits_perform trivial).bind fun _ => hready
  exact wp_bystander lasting_fed (emits_stopTransmission_bystander.bind hrest) h₅

/-! ## The stream -/

theorem wp_enabledLoop (hI : Lasting mem I) {stream : Fin 8} {enable : Bool} (hs : I s) :
    (enabledLoop fuel stream enable).wp (faultFree mem) (fun _ => True) (fun _ _ s' => I s') g s := by
  refine wp_iter (fun _ _ s' => I s') ?_ (fun _ _ _ _ => trivial) fuel hs
  intro _ g₁ s₁ h₁
  refine wp_seq (wp_readDma hI h₁) ?_
  rintro ccr g₂ s₂ ⟨rfl, h₂⟩
  split
  · exact h₂
  · exact h₂

theorem wp_streamEndLoop (hI : Lasting mem I) (hs : I s) :
    (streamEndLoop fuel).wp (faultFree mem) (fun _ => True) (fun _ _ s' => I s') g s := by
  refine wp_iter (fun _ _ s' => I s') ?_ (fun _ _ _ _ => trivial) fuel hs
  intro _ g₁ s₁ h₁
  refine wp_seq (wp_readDma hI h₁) ?_
  rintro lisr g₂ s₂ ⟨rfl, h₂⟩
  split
  · exact h₂
  · exact h₂

theorem wp_dataEndLoop (h : Feeding mem src n args s) :
    (dataEndLoop fuel).wp (faultFreeSdio mem) (fun _ => True)
      (fun _ _ s' => Fed mem src n args s') g s := by
  refine wp_iter (fun _ _ s' => Feeding mem src n args s') ?_ (fun _ _ _ _ => trivial) fuel h
  intro _ g₁ s₁ h₁
  refine wp_seq (wp_readSta_faultFree lasting_feeding h₁) ?_
  rintro sta g₂ s₂ ⟨rfl, h₂, hclean, hdataend, _⟩
  split
  next hended => exact h₂.fed hclean hdataend hended
  next => exact h₂

theorem wp_setDisabled {R : Nat → BitVec 32 → Nat → Prop}
    (h : Unfed args s ∧ R s.dlen s.cmar s.cndtr) :
    (setEnabledDma fuel stream3 false).wp (faultFree mem) (fun _ => True)
      (fun _ _ s' => Unfed args s' ∧ R s'.dlen s'.cmar s'.cndtr) g s := by
  have hoff : ∀ ccr : BitVec 32, hasFlag (ccr &&& ~~~dmaEn) dmaEn = false := by
    intro ccr
    rw [hasFlag, BitVec.and_assoc]
    simp [BitVec.and_comm]
  unfold setEnabledDma
  refine wp_seq (wp_readDma lasting_unfed_and h) ?_
  rintro ccr g₁ s₁ ⟨rfl, h₁⟩
  refine wp_seq (wp_writeDma (J := fun s => Unfed args s ∧ R s.dlen s.cmar s.cndtr)
    lasting_unfed_and h₁ ?_) ?_
  · intro s hs
    exact ⟨⟨hs.1.pushed, hs.1.consumed, hoff ccr, hs.1.arguments⟩, hs.2⟩
  intro _ g₂ s₂ h₂
  exact wp_enabledLoop lasting_unfed_and h₂

/-- The stream is enabled with everything set up. -/
theorem wp_setEnabled
    (h : Unfed args s ∧ s.dlen = 4 * n ∧ s.cmar = src ∧ s.cndtr = n) :
    (setEnabledDma fuel stream3 true).wp (faultFree mem) (fun _ => True)
      (fun _ _ s' => Feeding mem src n args s') g s := by
  have hlasting : Lasting mem
      (fun s => Unfed args s ∧ s.dlen = 4 * n ∧ s.cmar = src ∧ s.cndtr = n) :=
    lasting_unfed_and (R := fun dlen cmar cndtr => dlen = 4 * n ∧ cmar = src ∧ cndtr = n)
  unfold setEnabledDma
  refine wp_seq (wp_readDma hlasting h) ?_
  rintro ccr g₁ s₁ ⟨rfl, h₁⟩
  refine wp_seq (wp_writeDma (J := Feeding mem src n args) hlasting h₁ ?_) ?_
  · rintro s ⟨hs, hdlen, hcmar, hcndtr⟩
    have hstart : Feeding mem src n args s := hs.feeding hdlen
    refine ⟨hstart.pushed, hstart.le, hstart.consumed, hdlen, hs.arguments, ?_⟩
    intro _
    refine ⟨hcmar, hcndtr, ?_⟩
    have hcopied : (if s.active = true then s.copied else 0) = 0 := if_neg (by simp [hs.inactive])
    have hnone : s.pushed.length = 0 := by
      rw [hs.pushed]
      rfl
    exact hcopied.trans hnone.symm
  intro _ g₂ s₂ h₂
  exact wp_enabledLoop lasting_feeding h₂

theorem wp_startStream {dataAddr count : BitVec 32} (hcount : count.toNat ≤ 511)
    (h : Unfed args s ∧ s.dlen = 4 * (128 * count.toNat)) :
    (startStream fuel dataAddr count).wp (faultFree mem) (fun _ => True)
      (fun _ _ s' => Feeding mem dataAddr (128 * count.toNat) args s') g s := by
  have hwords : (count * 512#32 / 4#32).toNat % 2 ^ 16 = 128 * count.toNat := by
    have hbytes : (count * 512#32).toNat = 512 * count.toNat := by
      rw [BitVec.toNat_mul]
      simp only [BitVec.toNat_ofNat]
      omega
    rw [BitVec.toNat_udiv, hbytes]
    simp only [BitVec.toNat_ofNat, Nat.reducePow, Nat.reduceMod]
    omega
  have hoff : hasFlag writeCcr dmaEn = false := by decide
  generalize hn : 128 * count.toNat = n at h hwords ⊢
  unfold startStream
  -- Each register in turn; the stream is inactive throughout.
  refine wp_seq (wp_setDisabled (R := fun dlen _ _ => dlen = 4 * n) h) ?_
  intro _ g₁ s₁ h₁
  refine wp_seq (wp_writeDma (J := fun s => Unfed args s ∧ s.dlen = 4 * n)
    (lasting_unfed_and (R := fun dlen _ _ => dlen = 4 * n)) h₁ fun s hs =>
      ⟨⟨hs.1.pushed, hs.1.consumed, hoff, hs.1.arguments⟩, hs.2⟩) ?_
  intro _ g₂ s₂ h₂
  refine wp_seq (wp_writeDma (J := fun s => Unfed args s ∧ s.dlen = 4 * n ∧ s.cndtr = n)
    (lasting_unfed_and (R := fun dlen _ _ => dlen = 4 * n)) h₂ fun s hs =>
      ⟨⟨hs.1.pushed, hs.1.consumed, hs.1.inactive, hs.1.arguments⟩, hs.2, hwords⟩) ?_
  intro _ g₃ s₃ h₃
  refine wp_seq (wp_writeDma (J := fun s => Unfed args s ∧ s.dlen = 4 * n ∧ s.cndtr = n)
    (lasting_unfed_and (R := fun dlen _ cndtr => dlen = 4 * n ∧ cndtr = n)) h₃ fun s hs => hs) ?_
  intro _ g₄ s₄ h₄
  refine wp_seq (wp_writeDma
    (J := fun s => Unfed args s ∧ s.dlen = 4 * n ∧ s.cmar = dataAddr ∧ s.cndtr = n)
    (lasting_unfed_and (R := fun dlen _ cndtr => dlen = 4 * n ∧ cndtr = n)) h₄ fun s hs =>
      ⟨⟨hs.1.pushed, hs.1.consumed, hs.1.inactive, hs.1.arguments⟩, hs.2.1, rfl, hs.2.2⟩) ?_
  intro _ g₅ s₅ h₅
  refine wp_seq (wp_writeDma
    (J := fun s => Unfed args s ∧ s.dlen = 4 * n ∧ s.cmar = dataAddr ∧ s.cndtr = n)
    (lasting_unfed_and
      (R := fun dlen cmar cndtr => dlen = 4 * n ∧ cmar = dataAddr ∧ cndtr = n)) h₅ fun s hs => hs) ?_
  intro _ g₆ s₆ h₆
  exact wp_setEnabled h₆

theorem wp_finishDma (h : Fed mem src n args s) :
    (finishDma fuel).wp (faultFree mem) (fun _ => True)
      (fun _ _ s' => Fed mem src n args s') g s := by
  have hleave : ∀ {status : Int} {g : SdGlobals} {s : WriteState}, Fed mem src n args s →
      (leaveDma status).wp (faultFree mem) (fun _ => True)
        (fun _ _ s' => Fed mem src n args s') g s := by
    intro status g s hs
    refine wp_seq (wp_writeDma (J := Fed mem src n args) lasting_fed hs fun s hs => hs) ?_
    intro _ g₁ s₁ h₁
    exact h₁
  unfold finishDma
  refine wp_seq (wp_sdio (wp_bystander lasting_fed emits_stopTransmission_bystander h)) ?_
  intro status g₁ s₁ h₁
  split
  · exact hleave h₁
  · refine wp_seq (wp_sdio (wp_bystander lasting_fed emits_exitTests_bystander h₁)) ?_
    intro status' g₂ s₂ h₂
    split
    · exact hleave h₂
    · refine wp_seq (wp_sdio (wp_bystander lasting_fed (emits_perform trivial) h₂)) ?_
      intro _ g₃ s₃ h₃
      exact hleave h₃

theorem wp_writeBlocksDma {dataAddr data count address timeout : BitVec 32}
    (hpos : 2 ≤ count.toNat) (hcount : count.toNat ≤ 511) (h : Unfed [] s) :
    (writeBlocksDma fuel dataAddr data count address timeout).wp (faultFree mem) (fun _ => True)
      (fun _ _ s' => Fed mem dataAddr (128 * count.toNat) [dmaAddress g address] s') g s := by
  have hbytes := bytes_of_count hcount
  have hlasting : Lasting mem (fun s => Unfed [dmaAddress g address] s ∧
      s.dlen = 4 * (128 * count.toNat)) :=
    lasting_unfed_and (R := fun dlen _ _ => dlen = 4 * (128 * count.toNat))
  unfold writeBlocksDma
  dsimp only
  rw [if_neg (not_le_one hpos), wp_bind, wp_globals]
  refine wp_seq (wp_sdio (wp_writeDctrl_faultFree (J := Unfed []) lasting_unfed h fun s hs =>
    ⟨hs.pushed, hs.consumed, hs.inactive, hs.arguments⟩)) ?_
  intro _ g₁ s₁ h₁
  refine wp_seq (wp_sdio (wp_configure hbytes (by omega) h₁)) ?_
  intro _ g₂ s₂ h₂
  refine wp_seq (wp_sdio (wp_sendMultiWrite (J := fun s => Unfed [dmaAddress g address] s ∧
    s.dlen = 4 * (128 * count.toNat))
    (lasting_unfed_and (R := fun dlen _ _ => dlen = 4 * (128 * count.toNat))) h₂ ?_)) ?_
  · intro s hs
    refine ⟨⟨hs.1.pushed, hs.1.consumed, hs.1.inactive, ?_⟩, hs.2⟩
    dsimp only
    rw [hs.1.arguments]
    rfl
  intro _ g₃ s₃ h₃
  refine wp_seq (wp_sdio (wp_cmdResp1Error_faultFree hlasting h₃)) ?_
  rintro ⟨status, cs⟩ g₄ s₄ ⟨hstatus, h₄⟩
  have hzero : status = 0 := hstatus
  subst hzero
  dsimp only
  rw [if_neg (by simp)]
  -- `DTEN` is set once more, and only then does the stream start.
  refine wp_seq (wp_sdio (wp_bystander hlasting (emits_perform trivial) h₄)) ?_
  intro dctrl g₅ s₅ h₅
  refine wp_seq (wp_sdio (wp_writeDctrl_faultFree (J := fun s => Unfed [dmaAddress g address] s ∧
    s.dlen = 4 * (128 * count.toNat)) hlasting h₅ fun s hs =>
      ⟨⟨hs.1.pushed, hs.1.consumed, hs.1.inactive, hs.1.arguments⟩, hs.2⟩)) ?_
  intro _ g₆ s₆ h₆
  refine wp_seq (wp_startStream hcount h₆) ?_
  intro _ g₇ s₇ h₇
  refine wp_seq (wp_sdio (wp_dataEndLoop h₇)) ?_
  intro _ g₈ s₈ h₈
  refine wp_seq (wp_streamEndLoop lasting_fed h₈) ?_
  intro _ g₉ s₉ h₉
  exact wp_finishDma h₉

/-! ## The two against each other -/

/-- The same argument for `CMD25`, and the same words, read from the buffer in the same order. -/
structure TransferAgrees (mem : BitVec 32 → BitVec 32) (data : BitVec 32) (n : Nat)
    (polled dma : WriteState) : Prop where
  argument : dma.arguments = polled.arguments
  words : dma.received = polled.received
  source : dma.received = readFrom mem data n

theorem readFrom_inj {p q : BitVec 32} (hn : 0 < n) (h : readFrom mem p n = readFrom mem q n) :
    p = q := by
  have hfirst := congrArg (fun l => l[0]?) h
  simp only [readFrom, List.getElem?_map, List.getElem?_range hn, Option.map_some,
    Option.some.injEq, Prod.mk.injEq] at hfirst
  simpa using hfirst.1

/-- The versions whose addresses the two functions scale alike. -/
theorem dmaAddress_eq_iff {address : BitVec 32} (haddress : address.toNat < 2 ^ 23) :
    dmaAddress g address = cardAddress g address ↔
      g.sd.version = .sdsc ∨ g.sd.version = .sdxc ∨ address = 0#32 := by
  have hscaled : address * 512#32 = address ↔ address = 0#32 := by
    constructor
    · intro heq
      have hnat := congrArg BitVec.toNat heq
      rw [BitVec.toNat_mul] at hnat
      simp only [BitVec.toNat_ofNat] at hnat
      apply BitVec.eq_of_toNat_eq
      simp only [BitVec.toNat_ofNat]
      omega
    · rintro rfl
      rfl
  unfold dmaAddress cardAddress
  cases g.sd.version with
  | sdsc => simp
  | sdxc => simp
  | unknown => simpa using hscaled
  | v1x => simpa using hscaled
  | v2x => simpa using hscaled
  | sdhc => simpa using hscaled

theorem transferAgrees_iff {polled dma : WriteState} {data dataAddr address : BitVec 32}
    (hn : 0 < n) (haddress : address.toNat < 2 ^ 23)
    (hpolled : Fed mem data n [cardAddress g address] polled)
    (hdma : Fed mem dataAddr n [dmaAddress g address] dma) :
    TransferAgrees mem data n polled dma ↔
      dataAddr = data ∧
        (g.sd.version = .sdsc ∨ g.sd.version = .sdxc ∨ address = 0#32) := by
  have hargs : dma.arguments = polled.arguments ↔ dmaAddress g address = cardAddress g address := by
    rw [hdma.1.arguments, hpolled.1.arguments, List.cons.injEq]
    simp
  rw [← dmaAddress_eq_iff haddress, ← hargs]
  constructor
  · rintro ⟨hargument, _, hsource⟩
    rw [hdma.received] at hsource
    exact ⟨readFrom_inj hn hsource, hargument⟩
  · rintro ⟨rfl, hargument⟩
    exact ⟨hargument, hdma.received.trans hpolled.received.symm, hdma.received⟩

variable {fuel' : Nat} {data dataAddr count address timeout : BitVec 32} {g₁ g₂ : SdGlobals}
  {s₁ s₂ : WriteState} {status status' : Int}

/-- Every completed run of either function delivers what its own source address and its own
scaling of the block address say. -/
theorem dma_write_agrees_iff (hpos : 2 ≤ count.toNat) (hcount : count.toNat ≤ 511)
    (haddress : address.toNat < 2 ^ 23) (h : Unfed [] s) (h' : Unfed [] s')
    (hpolled : Runs (faultFree mem) (sdio (writeMultiBlockSd fuel data count address timeout) g) s
      (status, g₁) s₁)
    (hdma : Runs (faultFree mem) (writeBlocksDma fuel' dataAddr data count address timeout g) s'
      (status', g₂) s₂) :
    TransferAgrees mem data (128 * count.toNat) s₁ s₂ ↔
      dataAddr = data ∧ (g.sd.version = .sdsc ∨ g.sd.version = .sdxc ∨ address = 0#32) := by
  have hfed := wp_runs (wp_sdio (wp_writeMultiBlockSd_faultFree hpos hcount h)) hpolled
  have hfed' := wp_runs (wp_writeBlocksDma hpos hcount h') hdma
  exact transferAgrees_iff (by omega) haddress hfed hfed'

/-! ## A run of each -/

/-- The stream copies as long as it can, then the card takes out what there is. -/
def WriteState.pump (mem : BitVec 32 → BitVec 32) : Nat → WriteState → WriteState
  | 0, s => s
  | n + 1, s =>
      if s.active = true ∧ hasFlag s.dctrl sdioDctrlDmaen = true ∧ s.copied < s.cndtr ∧
          s.pushed.length < s.consumed + 32 then
        pump mem n
          { s with copied := s.copied + 1, pushed := s.pushed ++ [(s.next, mem s.next)] }
      else if s.consumed < s.pushed.length then pump mem n { s with consumed := s.pushed.length }
      else s

theorem consume_reaches (m : Nat) {s : WriteState} (hm : s.consumed + m ≤ s.pushed.length) :
    Relation.ReflTransGen (Advances mem) s { s with consumed := s.consumed + m } := by
  induction m with
  | zero => exact Relation.ReflTransGen.refl
  | succ m ih => exact (ih (by omega)).tail (Advances.consume (by dsimp only; omega))

theorem pump_reaches (n : Nat) (s : WriteState) :
    Relation.ReflTransGen (Advances mem) s (s.pump mem n) := by
  induction n generalizing s with
  | zero => exact Relation.ReflTransGen.refl
  | succ n ih =>
      unfold WriteState.pump
      split
      next hcopy =>
        exact Relation.ReflTransGen.head (Advances.copy hcopy.1 hcopy.2.1 hcopy.2.2.1 hcopy.2.2.2)
          (ih _)
      next =>
        split
        next hmore =>
          have hall : s.consumed + (s.pushed.length - s.consumed) = s.pushed.length := by omega
          have htake : Relation.ReflTransGen (Advances mem) s
              { s with consumed := s.consumed + (s.pushed.length - s.consumed) } :=
            consume_reaches _ (Nat.le_of_eq hall)
          rw [hall] at htake
          exact htake.trans (ih _)
        next => exact Relation.ReflTransGen.refl

/-- `STA` with an answer to every command. -/
def WriteState.sta (s : WriteState) : BitVec 32 :=
  sdioStaCmdrend ||| (if s.dlen ≤ 4 * s.consumed then sdioStaDataend else 0#32) |||
    (if s.pushed.length + 8 ≤ s.consumed + 32 then sdioStaTxfifohe else 0#32)

/-- What the card and the stream answer as they are. -/
def WriteState.answer (mem : BitVec 32 → BitVec 32) (s : WriteState) :
    (e : DmaEvent) → e.Response × WriteState
  | .sdio (.sta _) => (s.sta, s)
  | .sdio (.read (.resp _)) => (0x900#32, s)
  | .sdio (.read .dctrl) => (s.dctrl, s)
  | .sdio (.read _) => (0#32, s)
  | .sdio (.write .dlen v) => ((), { s with dlen := v.toNat % 2 ^ 25 })
  | .sdio (.write .dctrl v) => ((), { s with dctrl := v })
  | .sdio (.write .arg v) => ((), { s with arg := v })
  | .sdio (.write .cmd w) =>
      ((), if w = multiWrite then { s with arguments := s.arguments ++ [s.arg] } else s)
  | .sdio (.write .fifo w) => ((), s.push s.source w)
  | .sdio (.write _ _) => ((), s)
  | .sdio (.load addr) => (mem addr, { s with source := addr })
  | .sdio (.store _ _) => ((), s)
  | .sdio (.memcpy _ _ _) => ((), s)
  | .sdio (.delayTimer _) => ((), s)
  | .sdio .indeterminate => (0#32, s)
  | .sdio (.setGpioConf _ _) => ((), s)
  | .sdio (.enableAndResetRcc _ _) => ((), s)
  | .sdio .getPll48clkFreq => (0#32, s)
  | .readDma .lisr => (streamEndFlags, s)
  | .readDma _ => (if s.active = true then dmaEn else 0#32, s)
  | .writeDma reg v => ((), s.writeDma v reg)

/-- The card and the stream go on when `STA` is read. -/
def promptCard (mem : BitVec 32 → BitVec 32) (s : WriteState) (e : DmaEvent) :
    e.Response × WriteState :=
  match e with
  | .sdio (.sta _) => ((s.pump mem 300).sta, s.pump mem 300)
  | e => s.answer mem e

theorem sta_faultFree (s : WriteState) :
    hasFlag s.sta faultFlags = false ∧
      (hasFlag s.sta sdioStaDataend = true → s.dlen ≤ 4 * s.consumed) ∧
      (hasFlag s.sta sdioStaTxfifohe = true → s.pushed.length + 8 ≤ s.consumed + 32) := by
  unfold WriteState.sta
  -- One case for each of the two flags being up or not.
  refine ⟨?_, ?_, ?_⟩
  · split
    · split <;> decide
    · split <;> decide
  · split
    next hall => exact fun _ => hall
    next =>
      split
      · exact fun hset => absurd hset (by decide)
      · exact fun hset => absurd hset (by decide)
  · by_cases hroom : s.pushed.length + 8 ≤ s.consumed + 32
    · exact fun _ => hroom
    · rw [if_neg hroom]
      split
      · exact fun hset => absurd hset (by decide)
      · exact fun hset => absurd hset (by decide)

theorem promptCard_allowed (s : WriteState) (e : DmaEvent) :
    (faultFree mem).step s e (promptCard mem s e).1 (promptCard mem s e).2 := by
  have hstay : Relation.ReflTransGen (Advances mem) s s := Relation.ReflTransGen.refl
  cases e with
  | sdio e =>
      cases e with
      -- At a read of `STA` the card goes on; everything else happens at once.
      | sta site =>
          rcases sta_faultFree (s.pump mem 300) with ⟨hclean, hdataend, hroom⟩
          exact ⟨s.pump mem 300, pump_reaches 300 s, hclean, hdataend, hroom, rfl⟩
      | read reg =>
          cases reg with
          | resp i =>
              match i with
              | ⟨0, _⟩ => exact ⟨s, hstay, (by decide : r1Error 0x900#32 = 0), rfl⟩
              | ⟨i + 1, _⟩ => exact ⟨s, hstay, rfl⟩
          | dctrl => exact ⟨s, hstay, rfl, rfl⟩
          | _ => exact ⟨s, hstay, rfl⟩
      | write reg v =>
          cases reg with
          | dlen => exact ⟨s, hstay, rfl⟩
          | _ => exact ⟨s, hstay, rfl⟩
      | load addr => exact ⟨s, hstay, rfl, rfl⟩
      | _ => exact ⟨s, hstay, rfl⟩
  | readDma reg =>
      cases reg with
      | lisr => exact hstay
      | _ => exact hstay
  | writeDma reg v => exact ⟨s, hstay, rfl⟩

def unfedCard : WriteState where
  dlen := 0
  dctrl := 0#32
  arg := 0#32
  arguments := []
  source := 0#32
  pushed := []
  consumed := 0
  cmar := 0#32
  cndtr := 0
  active := false
  copied := 0

theorem unfedCard_unfed : Unfed [] unfedCard := ⟨rfl, rfl, rfl, rfl⟩

/-- A card of the version, after its identification. -/
def cardOf (version : CardVersion) : SdGlobals :=
  { blankGlobals with sd := { blankGlobals.sd with version := version } }

/-- Each word holds its own address but the parameter, which holds the address of the buffer. -/
def selfMemory (addr : BitVec 32) : BitVec 32 :=
  if addr = 0x2001FF00#32 then 0x20000000#32 else addr

def polledWrite : SdProc Int :=
  writeMultiBlockSd 400 0x20000000#32 2#32 8#32 1000#32

def dmaWrite : DmaProc Int :=
  writeBlocksDma 400 0x2001FF00#32 0x20000000#32 2#32 8#32 1000#32

set_option maxRecDepth 10000 in
theorem writes_end :
    ((sdio polledWrite (cardOf .sdhc)).exec (promptCard selfMemory) unfedCard).isSome = true ∧
      ((dmaWrite (cardOf .sdhc)).exec (promptCard selfMemory) unfedCard).isSome = true := by
  decide +kernel

theorem polledWrite_runs : ∃ status g₁ s₁,
    Runs (faultFree selfMemory) (sdio polledWrite (cardOf .sdhc)) unfedCard (status, g₁) s₁ := by
  rcases Option.isSome_iff_exists.1 writes_end.1 with ⟨⟨⟨status, g₁⟩, s₁⟩, hexec⟩
  exact ⟨status, g₁, s₁, Prog.exec_runs promptCard_allowed hexec⟩

theorem dmaWrite_runs : ∃ status g₂ s₂,
    Runs (faultFree selfMemory) (dmaWrite (cardOf .sdhc)) unfedCard (status, g₂) s₂ := by
  rcases Option.isSome_iff_exists.1 writes_end.2 with ⟨⟨⟨status, g₂⟩, s₂⟩, hexec⟩
  exact ⟨status, g₂, s₂, Prog.exec_runs promptCard_allowed hexec⟩

/-- On an SDHC card the two do not agree. -/
theorem dma_write_sdhc : ∃ status g₁ s₁ status' g₂ s₂,
    Runs (faultFree selfMemory) (sdio polledWrite (cardOf .sdhc)) unfedCard (status, g₁) s₁ ∧
    Runs (faultFree selfMemory) (dmaWrite (cardOf .sdhc)) unfedCard (status', g₂) s₂ ∧
    (TransferAgrees selfMemory 0x20000000#32 256 s₁ s₂ ↔
      0x2001FF00#32 = 0x20000000#32 ∧ ((cardOf .sdhc).sd.version = .sdsc ∨
        (cardOf .sdhc).sd.version = .sdxc ∨ 8#32 = 0#32)) := by
  rcases polledWrite_runs with ⟨status, g₁, s₁, hpolled⟩
  rcases dmaWrite_runs with ⟨status', g₂, s₂, hdma⟩
  exact ⟨status, g₁, s₁, status', g₂, s₂, hpolled, hdma,
    dma_write_agrees_iff (by decide) (by decide) (by decide) unfedCard_unfed unfedCard_unfed
      hpolled hdma⟩

/-- There `write_blocks_dma` writes what follows its parameter to block 4096 instead of 8. -/
theorem dma_write_disagrees : ∃ status g₁ s₁ status' g₂ s₂,
    Runs (faultFree selfMemory) (sdio polledWrite (cardOf .sdhc)) unfedCard (status, g₁) s₁ ∧
    Runs (faultFree selfMemory) (dmaWrite (cardOf .sdhc)) unfedCard (status', g₂) s₂ ∧
    s₁.arguments = [8#32] ∧ s₂.arguments = [4096#32] ∧
    s₁.received = readFrom selfMemory 0x20000000#32 256 ∧
    s₂.received = readFrom selfMemory 0x2001FF00#32 256 ∧
    ¬TransferAgrees selfMemory 0x20000000#32 256 s₁ s₂ := by
  rcases polledWrite_runs with ⟨status, g₁, s₁, hpolled⟩
  rcases dmaWrite_runs with ⟨status', g₂, s₂, hdma⟩
  have hfed := wp_runs (wp_sdio (wp_writeMultiBlockSd_faultFree (by decide) (by decide)
    unfedCard_unfed)) hpolled
  have hfed' := wp_runs (wp_writeBlocksDma (by decide) (by decide) unfedCard_unfed) hdma
  refine ⟨status, g₁, s₁, status', g₂, s₂, hpolled, hdma, hfed.1.arguments, hfed'.1.arguments,
    hfed.received, hfed'.received, ?_⟩
  rintro ⟨hargument, _⟩
  have heq := (hfed'.1.arguments.symm.trans hargument).trans hfed.1.arguments
  exact absurd heq (by decide)

end Driver
end SdioFat32
