import SdioFat32.Effects.Refine
import SdioFat32.Driver.Receive
import SdioFat32.Driver.Conversation

/-!
# StoringCard — a card that keeps its bytes, and the peripheral between it and the program

Before every event the card and the data path may go on.  While the path is armed, words of the
card arrive in the FIFO as in `receiver`, or the card takes words out of the FIFO and stores one
block after the other.  A fault stops the path at any time and raises its flags; the end of the
transfer stops it with `DATAEND` and `DBCKEND`.  The card may take or refuse any command, whatever
the answer is.  One thing is assumed: a path that was disabled has no part in the transfer that was
going on.

* `storingCard byteAddressed` — the environment, for cards addressed in bytes or in blocks;
* `steadyCard byteAddressed` — the same without a start bit error, whose flag no function clears;
* `Rests` — between two calls nothing that the card still does can be seen;
* `Indifferent` — what outlasts a command without data and its answer.
-/

namespace SdioFat32
namespace Driver

open Effects Cells Proc Relation

/-! ## The card -/

/-- A data command that the card has taken. -/
structure DataTransfer where
  reading : Bool
  single : Bool
  /-- The first byte of the card it is about. -/
  first : Nat

structure CardState extends RxState where
  card : Nat → BitVec 8
  arg : BitVec 32
  /-- The transfer that the data path takes part in. -/
  transfer : Option DataTransfer
  receiving : Bool
  /-- The words put into the FIFO since the path was configured. -/
  pushed : List (BitVec 32)
  /-- How many of them the card has taken, and how many blocks it has stored. -/
  consumed : Nat
  stored : Nat

/-- The flags of the data path. -/
def pathFlags : BitVec 32 := rxStaticFlags ||| sdioStaTxunderr

/-- The words of the card from byte `first` on. -/
def cardWords (card : Nat → BitVec 8) (first k : Nat) : BitVec 32 :=
  ofBytes fun i => card (first + 4 * k + i)

/-- The word at an address. -/
def wordAt (mem : Memory 32 (BitVec 8)) (addr : BitVec 32) : BitVec 32 :=
  ofBytes fun i => mem (nth addr i)

/-- The next block is stored. -/
def CardState.storeBlock (s : CardState) (first : Nat) : Nat → BitVec 8 := fun a =>
  if first + 512 * s.stored ≤ a ∧ a < first + 512 * (s.stored + 1) then
    streamByte (fun i => s.pushed.getD i 0#32) (a - first)
  else s.card a

/-- Everything was received, or everything is stored. -/
def CardState.Complete (s : CardState) (t : DataTransfer) : Prop :=
  if t.reading then s.receiving = true ∧ s.arrived = s.total
  else s.receiving = false ∧ s.dlen.toNat % 2 ^ 25 ≤ 512 * s.stored

/-- The data path sends, and the card takes part. -/
structure CardState.Sending (s : CardState) (t : DataTransfer) : Prop where
  enabled : s.enabled = true
  sending : s.receiving = false
  transfer : s.transfer = some t
  writing : t.reading = false

structure CardState.Receiving (s : CardState) (t : DataTransfer) : Prop where
  enabled : s.enabled = true
  receiving : s.receiving = true
  transfer : s.transfer = some t
  reading : t.reading = true
  more : s.arrived < s.total
  single : t.single = true → s.arrived < 128

/-- The card and the data path go on; a fault raises no flag of `spared`. -/
inductive Goes (spared : BitVec 32) : CardState → CardState → Prop where
  | word {s : CardState} {t : DataTransfer} : s.Receiving t → s.queue.length < fifoDepth →
      Goes spared s
        { s with
          arrived := s.arrived + 1
          queue := s.queue ++ [cardWords s.card t.first s.arrived] }
  | lost {s : CardState} {t : DataTransfer} : s.Receiving t → s.queue.length = fifoDepth →
      Goes spared s
        { s with
          arrived := s.arrived + 1
          flags := s.flags ||| sdioStaRxoverr
          enabled := false }
  | consume {s : CardState} {t : DataTransfer} : s.Sending t → s.consumed < s.pushed.length →
      (t.single = true → s.consumed < 128) → Goes spared s { s with consumed := s.consumed + 1 }
  | store {s : CardState} {t : DataTransfer} : s.Sending t → 128 * (s.stored + 1) ≤ s.consumed →
      Goes spared s { s with stored := s.stored + 1, card := s.storeBlock t.first }
  | fault {s : CardState} (raised : BitVec 32) : s.enabled = true →
      hasFlag raised spared = false →
      Goes spared s { s with flags := s.flags ||| raised, enabled := false }
  | finish {s : CardState} {t : DataTransfer} : s.enabled = true → s.transfer = some t →
      s.Complete t → Goes spared s { s with flags := s.flags ||| rxEndFlags, enabled := false }

/-- The same without a start bit error. -/
abbrev Proceeds : CardState → CardState → Prop := Goes (rxEndFlags ||| sdioStaStbiterr)

/-- A value of `STA`. -/
structure CardState.Shows (s : CardState) (sta : BitVec 32) : Prop extends
    s.toRxState.Shows sta where
  data : sta &&& pathFlags = s.flags &&& pathFlags
  room : hasFlag sta sdioStaTxfifohe = true → s.pushed.length + 8 ≤ s.consumed + fifoDepth

/-- A word is put into the FIFO, or lost to a full one. -/
def CardState.push (s : CardState) (w : BitVec 32) : CardState :=
  if s.pushed.length < s.consumed + fifoDepth then { s with pushed := s.pushed ++ [w] } else s

/-- A write to `DCTRL` starts over with an empty FIFO; without `DTEN` the path leaves the transfer
that is going on. -/
def CardState.configure (s : CardState) (v : BitVec 32) : CardState :=
  { s with
    enabled := hasFlag v sdioDctrlDten
    receiving := hasFlag v sdioDctrlDtdir
    transfer := if hasFlag v sdioDctrlDten = true then s.transfer else none
    arrived := 0
    queue := []
    pushed := []
    consumed := 0
    stored := 0 }

/-! ## Commands -/

/-- The byte of the card that the argument of a command names. -/
def firstByte (byteAddressed : Bool) (arg : BitVec 32) : Nat :=
  if byteAddressed then arg.toNat else 512 * arg.toNat

/-- The transfer that a command asks for. -/
def dataTransfer (byteAddressed : Bool) (word arg : BitVec 32) : Option DataTransfer :=
  if word = commandWord cmdReadSingleBlock sdioCmdShortResp then
    some ⟨true, true, firstByte byteAddressed arg⟩
  else if word = commandWord cmdReadMultipleBlock sdioCmdShortResp then
    some ⟨true, false, firstByte byteAddressed arg⟩
  else if word = commandWord cmdWriteBlock sdioCmdShortResp then
    some ⟨false, true, firstByte byteAddressed arg⟩
  else if word = commandWord cmdWriteMultipleBlock sdioCmdShortResp then
    some ⟨false, false, firstByte byteAddressed arg⟩
  else none

/-- The card takes a command or refuses it; a command may end the transfer that is going on. -/
def Obeys (byteAddressed : Bool) (word : BitVec 32) (s s' : CardState) : Prop :=
  ∃ transfer, s' = { s with transfer := transfer } ∧
    (transfer = s.transfer ∨ transfer = none ∨ transfer = dataTransfer byteAddressed word s.arg)

/-- `memcpy` is called for regions that do not meet. -/
def cardWith (spared : BitVec 32) (byteAddressed : Bool) :
    Env SdioEvent SdioEvent.Response CardState where
  req _ e :=
    match e with
    | .memcpy dst src n => Apart dst n.toNat src n.toNat
    | _ => True
  step s e r s' :=
    ∃ s₁, ReflTransGen (Goes spared) s s₁ ∧
      match e, r with
      | .sta _, (sta : BitVec 32) => s₁.Shows sta ∧ s' = s₁
      | .read .fifo, (w : BitVec 32) =>
          ∃ rx, s₁.toRxState.Pops w rx ∧ s' = { s₁ with toRxState := rx }
      | .read .icr, (v : BitVec 32) => v &&& pathFlags = 0#32 ∧ s' = s₁
      | .write .icr v, _ => s' = { s₁ with flags := s₁.flags &&& ~~~v }
      | .write .dlen v, _ => s' = { s₁ with dlen := v }
      | .write .dctrl v, _ => s' = s₁.configure v
      | .write .arg v, _ => s' = { s₁ with arg := v }
      | .write .cmd w, _ => Obeys byteAddressed w s₁ s'
      | .write .fifo w, _ => s' = s₁.push w
      | .load addr, (w : BitVec 32) => w = wordAt s₁.mem addr ∧ s' = s₁
      | .store addr w, _ => s' = { s₁ with mem := s₁.mem.store addr 4 (wordByte w) }
      | .memcpy dst src n, _ => s' = { s₁ with mem := s₁.mem.copy dst src n.toNat }
      | _, _ => s' = s₁

/-- A fault raises any flags but those of the end. -/
abbrev storingCard : Bool → Env SdioEvent SdioEvent.Response CardState := cardWith rxEndFlags

/-- The same without a start bit error. -/
abbrev steadyCard : Bool → Env SdioEvent SdioEvent.Response CardState :=
  cardWith (rxEndFlags ||| sdioStaStbiterr)

variable {byteAddressed : Bool} {spared m : BitVec 32} {s s' s₁ : CardState} {t : DataTransfer}

/-! ## What the progress of the card keeps -/

/-- Neither a word was taken out of the FIFO nor one put into it since the path was configured. -/
structure CardState.Untouched (s : CardState) : Prop where
  arrived : s.arrived = s.queue.length
  queued : s.queue.length ≤ fifoDepth
  total : fifoDepth < s.total
  pushed : s.pushed = []
  consumed : s.consumed = 0
  stored : s.stored = 0

/-- The path has stopped, or is armed and nothing comes of it. -/
structure Halted (s : CardState) : Prop where
  noStartError : hasFlag s.flags sdioStaStbiterr = false
  idle : s.enabled = true → s.Untouched ∧ hasFlag s.flags rxEndFlags = false

/-- Between two calls: no flag tells of an end that is none. -/
structure Rests (s : CardState) : Prop extends Halted s where
  ends : hasFlag s.flags rxEndFlags = false

/-- The same, whether there was a start bit error or not. -/
structure AtRest (s : CardState) : Prop where
  untouched : s.enabled = true → s.Untouched
  ends : hasFlag s.flags rxEndFlags = false

theorem AtRest.rests (h : AtRest s) (hstart : hasFlag s.flags sdioStaStbiterr = false) :
    Rests s where
  noStartError := hstart
  idle henabled := ⟨h.untouched henabled, h.ends⟩
  ends := h.ends

theorem Rests.atRest (h : Rests s) : AtRest s where
  untouched henabled := (h.idle henabled).1
  ends := h.ends

/-- What only the program changes. -/
structure Fixed (s s' : CardState) : Prop where
  mem : s'.mem = s.mem
  dlen : s'.dlen = s.dlen
  arg : s'.arg = s.arg
  transfer : s'.transfer = s.transfer
  receiving : s'.receiving = s.receiving
  pushed : s'.pushed = s.pushed

theorem Proceeds.fixed (h : Proceeds s s') : Fixed s s' := by
  cases h <;> exact ⟨rfl, rfl, rfl, rfl, rfl, rfl⟩

theorem drift_fixed (hdrift : ReflTransGen Proceeds s s') : Fixed s s' := by
  induction hdrift with
  | refl => exact ⟨rfl, rfl, rfl, rfl, rfl, rfl⟩
  | tail _ hstep ih =>
      have h := hstep.fixed
      exact ⟨h.mem.trans ih.mem, h.dlen.trans ih.dlen, h.arg.trans ih.arg,
        h.transfer.trans ih.transfer, h.receiving.trans ih.receiving, h.pushed.trans ih.pushed⟩

/-- No flag goes down by itself. -/
theorem Goes.hasFlag_mono (h : Goes spared s s') (hm : hasFlag s.flags m = true) :
    hasFlag s'.flags m = true := by
  have hor : ∀ raised : BitVec 32, hasFlag (s.flags ||| raised) m = true := by
    intro raised
    rw [hasFlag_left_or, hm, Bool.true_or]
  cases h with
  | word => exact hm
  | lost => exact hor _
  | consume => exact hm
  | store => exact hm
  | fault raised => exact hor raised
  | finish => exact hor _

theorem not_proceeds_of_stopped (h : s.enabled = false) : ¬Proceeds s s' := by
  have hoff : s.enabled ≠ true := by simp [h]
  intro hstep
  cases hstep with
  | word hreceiving => exact hoff hreceiving.enabled
  | lost hreceiving => exact hoff hreceiving.enabled
  | consume hsending => exact hoff hsending.enabled
  | store hsending => exact hoff hsending.enabled
  | fault raised henabled => exact hoff henabled
  | finish henabled => exact hoff henabled

/-- A path that has stopped stays as it is. -/
theorem eq_of_stopped (h : s.enabled = false) (hdrift : ReflTransGen Proceeds s s') : s' = s := by
  induction hdrift with
  | refl => rfl
  | tail _ hstep ih =>
      rw [ih] at hstep
      exact absurd hstep (not_proceeds_of_stopped h)

/-- A fault raises neither a flag of the end nor that of the start bit. -/
theorem fault_apart {raised : BitVec 32}
    (h : hasFlag raised (rxEndFlags ||| sdioStaStbiterr) = false) :
    hasFlag raised rxEndFlags = false ∧ hasFlag raised sdioStaStbiterr = false := by
  rw [hasFlag_or, Bool.or_eq_false_iff] at h
  exact h

theorem Proceeds.noStartError (h : Proceeds s s') (hs : hasFlag s.flags sdioStaStbiterr = false) :
    hasFlag s'.flags sdioStaStbiterr = false := by
  cases h with
  | word => exact hs
  | lost =>
      rw [hasFlag_left_or, hs]
      decide
  | consume => exact hs
  | store => exact hs
  | fault raised henabled hraised =>
      rw [hasFlag_left_or, hs, (fault_apart hraised).2]
      rfl
  | finish =>
      rw [hasFlag_left_or, hs]
      decide

/-- From an armed path that nothing comes of, the card can send what the FIFO holds, or stop. -/
theorem Proceeds.untouched (h : Proceeds s s') (hs : s.Untouched)
    (hends : hasFlag s.flags rxEndFlags = false) :
    s'.mem = s.mem ∧ s'.card = s.card ∧ hasFlag s'.flags rxEndFlags = false ∧
      (s'.enabled = true → s'.Untouched) := by
  have harrived := hs.arrived
  have hqueued := hs.queued
  have htotal := hs.total
  cases h with
  | word hreceiving hroom =>
      refine ⟨rfl, rfl, hends, fun _ => ⟨?_, ?_, htotal, hs.pushed, hs.consumed, hs.stored⟩⟩
      · simp [harrived]
      · simp only [List.length_append, List.length_singleton]
        omega
  | lost =>
      refine ⟨rfl, rfl, ?_, fun henabled => absurd henabled Bool.false_ne_true⟩
      rw [hasFlag_left_or, hends]
      decide
  | consume hsending hmore =>
      rw [hs.pushed, List.length_nil] at hmore
      omega
  | store hsending hblock =>
      rw [hs.consumed] at hblock
      omega
  | fault raised henabled hraised =>
      refine ⟨rfl, rfl, ?_, fun henabled => absurd henabled Bool.false_ne_true⟩
      rw [hasFlag_left_or, hends, (fault_apart hraised).1]
      rfl
  | finish henabled htransfer hcomplete =>
      -- The FIFO is smaller than a block.
      unfold CardState.Complete at hcomplete
      have hsize : s.total = s.dlen.toNat % 2 ^ 25 / 4 := rfl
      have hstored := hs.stored
      split at hcomplete
      · omega
      · omega

theorem Halted.proceeds (hs : Halted s) (h : Proceeds s s') :
    Halted s' ∧ s'.mem = s.mem ∧ s'.card = s.card ∧
      hasFlag s'.flags rxEndFlags = hasFlag s.flags rxEndFlags := by
  cases henabled : s.enabled with
  | false => exact absurd h (not_proceeds_of_stopped henabled)
  | true =>
      obtain ⟨huntouched, hends⟩ := hs.idle henabled
      obtain ⟨hmem, hcard, hends', huntouched'⟩ := h.untouched huntouched hends
      refine ⟨⟨h.noStartError hs.noStartError, fun hon => ⟨huntouched' hon, hends'⟩⟩, hmem, hcard,
        ?_⟩
      rw [hends, hends']

theorem Halted.drift (hs : Halted s) (hdrift : ReflTransGen Proceeds s s') :
    Halted s' ∧ s'.mem = s.mem ∧ s'.card = s.card ∧
      hasFlag s'.flags rxEndFlags = hasFlag s.flags rxEndFlags := by
  induction hdrift with
  | refl => exact ⟨hs, rfl, rfl, rfl⟩
  | tail _ hstep ih =>
      obtain ⟨h₁, hmem₁, hcard₁, hends₁⟩ := ih
      obtain ⟨h₂, hmem₂, hcard₂, hends₂⟩ := h₁.proceeds hstep
      exact ⟨h₂, hmem₂.trans hmem₁, hcard₂.trans hcard₁, hends₂.trans hends₁⟩

theorem hasFlag_clear_false {flags v m : BitVec 32} (h : hasFlag flags m = false) :
    hasFlag (flags &&& ~~~v) m = false := by
  unfold hasFlag at h ⊢
  simp only [bne_eq_false_iff_eq] at h ⊢
  rw [BitVec.and_assoc, BitVec.and_comm _ m, ← BitVec.and_assoc, h]
  simp

theorem Halted.clear (hs : Halted s) (v : BitVec 32) :
    Halted { s with flags := s.flags &&& ~~~v } where
  noStartError := hasFlag_clear_false hs.noStartError
  idle henabled := by
    obtain ⟨huntouched, hends⟩ := hs.idle henabled
    refine ⟨⟨huntouched.arrived, huntouched.queued, huntouched.total, huntouched.pushed,
      huntouched.consumed, huntouched.stored⟩, hasFlag_clear_false hends⟩

/-- Clearing the data flags lets the path rest. -/
theorem Halted.rests (hs : Halted s) :
    Rests { s with flags := s.flags &&& ~~~sdioMaskStaticDataFlags } where
  toHalted := hs.clear _
  ends := by
    have hapart : ~~~sdioMaskStaticDataFlags &&& rxEndFlags = 0#32 := by decide
    rw [hasFlag, BitVec.and_assoc, hapart]
    simp

/-! ## What a conversation with the card keeps -/

/-- The part of a state that commands and flags do not touch. -/
def CardState.bare (s : CardState) : RxState := { s.toRxState with enabled := true, flags := 0#32 }

/-- The state as the reception sees it once the path was armed. -/
def CardState.armed (s : CardState) : RxState := { s.toRxState with enabled := true }

structure Steadfast (I : CardState → Prop) : Prop where
  proceeds : ∀ s s', Proceeds s s' → I s → I s'
  clears : ∀ s v, v &&& pathFlags = 0#32 → I s → I { s with flags := s.flags &&& ~~~v }
  arg : ∀ s v, I s → I { s with arg := v }

/-- The end of the transfer does not matter either. -/
structure Indifferent (I : CardState → Prop) : Prop extends Steadfast I where
  ends : ∀ s, I s → I { s with transfer := none }

variable {cmds : BitVec 32 → Prop} {I J : CardState → Prop} {D : CardState → Prop} {g : SdGlobals}
  {fuel : Nat}

theorem Steadfast.drift (hI : Steadfast I) (h : ReflTransGen Proceeds s s') (hs : I s) : I s' := by
  induction h with
  | refl => exact hs
  | tail _ hstep ih => exact hI.proceeds _ _ hstep ih

/-- All that a remark can do. -/
theorem step_remark {e : SdioEvent} {r : e.Response} (he : Remark cmds e)
    (hstep : (steadyCard byteAddressed).step s e r s') :
    ∃ s₁, ReflTransGen Proceeds s s₁ ∧
      (s' = s₁ ∨ (∃ v, s' = { s₁ with arg := v }) ∨ ∃ w, cmds w ∧ Obeys byteAddressed w s₁ s') := by
  rcases hstep with ⟨s₁, hdrift, heffect⟩
  refine ⟨s₁, hdrift, ?_⟩
  cases e with
  | sta site => exact Or.inl heffect.2
  | read reg =>
      cases reg with
      | fifo => exact he.elim
      | icr => exact Or.inl heffect.2
      | _ => exact Or.inl heffect
  | write reg v =>
      cases reg with
      | arg => exact Or.inr (Or.inl ⟨v, heffect⟩)
      | cmd => exact Or.inr (Or.inr ⟨v, he, heffect⟩)
      | _ => exact he.elim
  | delayTimer ms => exact Or.inl heffect
  | _ => exact he.elim

theorem req_steadyCard {e : SdioEvent} (he : ∀ dst src n, e ≠ .memcpy dst src n) :
    (steadyCard byteAddressed).req s e := by
  cases e with
  | memcpy dst src n => exact absurd rfl (he dst src n)
  | _ => trivial

theorem Remark.not_memcpy {e : SdioEvent} (he : Remark cmds e) :
    ∀ dst src n, e ≠ .memcpy dst src n := by
  rintro dst src n rfl
  exact he.elim

theorem statusCommand_talks {w arg : BitVec 32} (hw : StatusCommand w) :
    dataTransfer byteAddressed w arg = none := by
  rcases hw with rfl | rfl
  · rfl
  · rfl

theorem Indifferent.obeyed (hI : Indifferent I) {w : BitVec 32} (hw : StatusCommand w) (hs : I s)
    (h : Obeys byteAddressed w s s') : I s' := by
  obtain ⟨transfer, rfl, rfl | rfl | htransfer⟩ := h
  · exact hs
  · exact hI.ends s hs
  · rw [htransfer, statusCommand_talks hw]
    exact hI.ends s hs

theorem wp_clearFlagSdio_steady (hI : Steadfast I) {flag : BitVec 32}
    (hflag : flag &&& pathFlags = 0#32) (hs : I s) :
    (clearFlagSdio flag).wp (steadyCard byteAddressed) D (fun _ _ s' => I s') g s := by
  refine ⟨trivial, ?_⟩
  rintro (v : BitVec 32) s₁ ⟨s₀, hdrift, hv, rfl⟩
  refine ⟨trivial, ?_⟩
  rintro _ s' ⟨s₂, hdrift', rfl⟩
  have hapart : (v ||| flag) &&& pathFlags = 0#32 := by
    have hdistrib : (v ||| flag) &&& pathFlags = v &&& pathFlags ||| flag &&& pathFlags := by
      ext i
      simp [Bool.and_or_distrib_right]
    rw [hdistrib, hv, hflag]
    rfl
  exact hI.clears s₂ _ hapart (hI.drift hdrift' (hI.drift hdrift hs))

theorem cmdFlags_apart : sdioMaskStaticCmdFlags &&& pathFlags = 0#32 := by decide

/-- An answer outlasts what neither the card nor the clearing of command flags takes away. -/
theorem Steadfast.survives (hI : Steadfast I) :
    Survives (fun _ => False) (steadyCard byteAddressed) (fun _ => True) I where
  remark s e hs he := by
    refine ⟨req_steadyCard he.not_memcpy, ?_⟩
    intro r s' hstep
    rcases step_remark he hstep with ⟨s₁, hdrift, rfl | ⟨v, rfl⟩ | ⟨w, hw, _⟩⟩
    · exact hI.drift hdrift hs
    · exact hI.arg s₁ v (hI.drift hdrift hs)
    · exact hw.elim
  clears g s hs := wp_clearFlagSdio_steady hI cmdFlags_apart hs
  cut _ _ := trivial

theorem Indifferent.survives (hI : Indifferent I) :
    Survives StatusCommand (steadyCard byteAddressed) (fun _ => True) I where
  remark s e hs he := by
    refine ⟨req_steadyCard he.not_memcpy, ?_⟩
    intro r s' hstep
    rcases step_remark he hstep with ⟨s₁, hdrift, rfl | ⟨v, rfl⟩ | ⟨w, hw, hobeys⟩⟩
    · exact hI.drift hdrift hs
    · exact hI.arg s₁ v (hI.drift hdrift hs)
    · exact hI.obeyed hw (hI.drift hdrift hs) hobeys
  clears g s hs := wp_clearFlagSdio_steady hI.toSteadfast cmdFlags_apart hs
  cut _ _ := trivial

theorem wp_readSta_steady (hI : Steadfast I) {site : StaSite} (hs : I s) :
    (readSta site).wp (steadyCard byteAddressed) D
      (fun sta g' s' => g' = g ∧ I s' ∧ s'.Shows sta) g s := by
  refine ⟨trivial, ?_⟩
  rintro sta s' ⟨s₁, hdrift, hshows, rfl⟩
  exact ⟨rfl, hI.drift hdrift hs, hshows⟩

/-- The data flags are cleared. -/
theorem wp_clearFlagsSdio_steady (hI : Steadfast I) {v : BitVec 32}
    (hclear : ∀ s, I s → J { s with flags := s.flags &&& ~~~v }) (hs : I s) :
    (clearFlagsSdio v).wp (steadyCard byteAddressed) D (fun _ _ s' => J s') g s := by
  refine ⟨trivial, ?_⟩
  rintro _ s' ⟨s₁, hdrift, rfl⟩
  exact hclear s₁ (hI.drift hdrift hs)

/-! ## A card without failures -/

instance (s : CardState) (t : DataTransfer) : Decidable (s.Complete t) :=
  inferInstanceAs (Decidable (if t.reading then _ else _))

/-- One step of a card that goes on whenever it can. -/
def CardState.proceed? (s : CardState) (t : DataTransfer) : Option CardState :=
  if t.reading = true ∧ s.receiving = true ∧ s.arrived < s.total ∧
      (t.single = true → s.arrived < 128) ∧ s.queue.length < fifoDepth then
    some
      { s with arrived := s.arrived + 1, queue := s.queue ++ [cardWords s.card t.first s.arrived] }
  else if t.reading = false ∧ s.receiving = false ∧ 128 * (s.stored + 1) ≤ s.consumed then
    some { s with stored := s.stored + 1, card := s.storeBlock t.first }
  else if t.reading = false ∧ s.receiving = false ∧ s.consumed < s.pushed.length ∧
      (t.single = true → s.consumed < 128) then
    some { s with consumed := s.consumed + 1 }
  else if s.Complete t then
    some { s with flags := s.flags ||| rxEndFlags, enabled := false }
  else none

def CardState.advance : Nat → CardState → CardState
  | 0, s => s
  | n + 1, s =>
      match s.enabled, s.transfer with
      | true, some t =>
          match s.proceed? t with
          | some s' => s'.advance n
          | none => s
      | _, _ => s

/-- `STA` with an answer to every command. -/
def CardState.sta (s : CardState) : BitVec 32 :=
  s.toRxState.sta ||| s.flags &&& sdioStaTxunderr |||
    (if s.pushed.length + 8 ≤ s.consumed + fifoDepth then sdioStaTxfifohe else 0#32)

/-- Before every event the card does what it can; every answer tells of a ready card. -/
def willingCard (byteAddressed : Bool) (s₀ : CardState) (e : SdioEvent) :
    e.Response × CardState :=
  let s := s₀.advance 64
  match e with
  | .sta _ => (s.sta, s)
  | .read .fifo =>
      match s.queue with
      | [] => (0#32, s)
      | head :: rest => (head, { s with queue := rest })
  | .read .icr => (0#32, s)
  | .read _ => (0x900#32, s)
  | .write .icr v => ((), { s with flags := s.flags &&& ~~~v })
  | .write .dlen v => ((), { s with dlen := v })
  | .write .dctrl v => ((), s.configure v)
  | .write .arg v => ((), { s with arg := v })
  | .write .cmd w =>
      match dataTransfer byteAddressed w s.arg with
      | some t => ((), { s with transfer := some t })
      | none => ((), s)
  | .write .fifo w => ((), s.push w)
  | .write _ _ => ((), s)
  | .load addr => (wordAt s.mem addr, s)
  | .store addr w => ((), { s with mem := s.mem.store addr 4 (wordByte w) })
  | .memcpy dst src n => ((), { s with mem := s.mem.copy dst src n.toNat })
  | .delayTimer _ => ((), s)
  | .indeterminate => (0#32, s)
  | .setGpioConf _ _ => ((), s)
  | .enableAndResetRcc _ _ => ((), s)
  | .getPll48clkFreq => (0#32, s)

theorem proceeds_of_proceed? (henabled : s.enabled = true) (htransfer : s.transfer = some t)
    (h : s.proceed? t = some s') : Proceeds s s' := by
  unfold CardState.proceed? at h
  split at h
  · rename_i hword
    obtain ⟨hreading, hreceiving, hmore, hsingle, hroom⟩ := hword
    cases h
    exact .word ⟨henabled, hreceiving, htransfer, hreading, hmore, hsingle⟩ hroom
  split at h
  · rename_i hblock
    cases h
    exact .store ⟨henabled, hblock.2.1, htransfer, hblock.1⟩ hblock.2.2
  split at h
  · rename_i hmore
    obtain ⟨hwriting, hsending, hqueued, hsingle⟩ := hmore
    cases h
    exact .consume ⟨henabled, hsending, htransfer, hwriting⟩ hqueued hsingle
  split at h
  · rename_i hcomplete
    cases h
    exact .finish henabled htransfer hcomplete
  · cases h

theorem advance_proceeds (n : Nat) (s : CardState) : ReflTransGen Proceeds s (s.advance n) := by
  induction n generalizing s with
  | zero => exact .refl
  | succ n ih =>
      unfold CardState.advance
      split
      next t henabled htransfer =>
        split
        next hstep => exact .head (proceeds_of_proceed? henabled htransfer hstep) (ih _)
        next => exact .refl
      next => exact .refl

theorem and_or_left (x m m' : BitVec 32) : x &&& (m ||| m') = x &&& m ||| x &&& m' := by
  ext i
  simp [Bool.and_or_distrib_left]

/-- The flags of the sending FIFO do not show in those of the other one. -/
theorem cardSta_and {m : BitVec 32} (hunderrun : sdioStaTxunderr &&& m = 0#32)
    (hroom : sdioStaTxfifohe &&& m = 0#32) : s.sta &&& m = s.toRxState.sta &&& m := by
  have hif : (if s.pushed.length + 8 ≤ s.consumed + fifoDepth then sdioStaTxfifohe else 0#32) &&&
      m = 0#32 := by
    split
    · exact hroom
    · simp
  rw [CardState.sta, BitVec.and_comm, and_or_left, and_or_left, BitVec.and_comm m,
    BitVec.and_comm m, BitVec.and_comm m, hif, BitVec.and_assoc, hunderrun]
  simp

/-- The receiving FIFO shows no flag of the sending one. -/
theorem rxSta_and {m : BitVec 32} (hstatic : rxStaticFlags &&& m = 0#32)
    (hcmdrend : hasFlag sdioStaCmdrend m = false) (hfull : hasFlag sdioStaRxfifof m = false)
    (hhalf : hasFlag sdioStaRxfifohf m = false) (havailable : hasFlag sdioStaRxdavl m = false) :
    s.toRxState.sta &&& m = 0#32 := by
  have hnone : hasFlag s.toRxState.sta m = false := by
    rw [hasFlag_sta hstatic hcmdrend, hfull, hhalf, havailable]
    simp
  exact bne_eq_false_iff_eq.1 hnone

theorem cardSta_shows (s : CardState) : s.Shows s.sta where
  static := by
    rw [cardSta_and (by decide) (by decide)]
    exact (sta_shows s.toRxState).static
  full := by
    rw [hasFlag, cardSta_and (by decide) (by decide)]
    exact (sta_shows s.toRxState).full
  half := by
    rw [hasFlag, cardSta_and (by decide) (by decide)]
    exact (sta_shows s.toRxState).half
  available := by
    rw [hasFlag, cardSta_and (by decide) (by decide)]
    exact (sta_shows s.toRxState).available
  data := by
    have hstatic : s.sta &&& rxStaticFlags = s.flags &&& rxStaticFlags := by
      rw [cardSta_and (by decide) (by decide)]
      exact (sta_shows s.toRxState).static
    have hunderrun : s.sta &&& sdioStaTxunderr = s.flags &&& sdioStaTxunderr := by
      have hroom : (if s.pushed.length + 8 ≤ s.consumed + fifoDepth then sdioStaTxfifohe
          else 0#32) &&& sdioStaTxunderr = 0#32 := by
        split
        · decide
        · decide
      rw [CardState.sta, BitVec.and_comm, and_or_left, and_or_left, BitVec.and_comm sdioStaTxunderr,
        BitVec.and_comm sdioStaTxunderr, BitVec.and_comm sdioStaTxunderr, hroom, BitVec.and_assoc,
        BitVec.and_self, rxSta_and (by decide) (by decide) (by decide) (by decide) (by decide)]
      simp
    rw [pathFlags, and_or_left, and_or_left, hstatic, hunderrun]
  room := by
    intro hflag
    by_contra hfull
    rw [CardState.sta, if_neg hfull, hasFlag_left_or, hasFlag_left_or] at hflag
    have hrx : hasFlag s.toRxState.sta sdioStaTxfifohe = false :=
      bne_eq_false_iff_eq.2
        (rxSta_and (by decide) (by decide) (by decide) (by decide) (by decide))
    have hunderrun : hasFlag (s.flags &&& sdioStaTxunderr) sdioStaTxfifohe = false := by
      rw [hasFlag, BitVec.and_assoc]
      simp [sdioStaTxunderr, sdioStaTxfifohe]
    rw [hrx, hunderrun] at hflag
    exact Bool.false_ne_true hflag

theorem willingCard_allowed (s : CardState) (e : SdioEvent) :
    (steadyCard byteAddressed).step s e (willingCard byteAddressed s e).1
      (willingCard byteAddressed s e).2 := by
  refine ⟨s.advance 64, advance_proceeds 64 s, ?_⟩
  cases e with
  | sta site => exact ⟨cardSta_shows _, rfl⟩
  | read reg =>
      cases reg with
      | fifo =>
          rcases hqueue : (s.advance 64).queue with _ | ⟨head, rest⟩
          · refine ⟨(s.advance 64).toRxState, ?_, ?_⟩
            · simp [RxState.Pops, hqueue]
            · simp [willingCard, hqueue]
          · refine ⟨{ (s.advance 64).toRxState with queue := rest }, ?_, ?_⟩
            · simp [RxState.Pops, willingCard, hqueue]
            · simp [willingCard, hqueue]
      | icr => exact ⟨(by decide : 0#32 &&& pathFlags = 0#32), rfl⟩
      | _ => rfl
  | write reg v =>
      cases reg with
      | cmd =>
          unfold willingCard
          dsimp only
          rcases htransfer : dataTransfer byteAddressed v (s.advance 64).arg with _ | t
          · exact ⟨(s.advance 64).transfer, rfl, Or.inl rfl⟩
          · exact ⟨some t, rfl, Or.inr (Or.inr htransfer.symm)⟩
      | _ => rfl
  | load addr => exact ⟨rfl, rfl⟩
  | _ => rfl

end Driver
end SdioFat32
