import Mathlib.Logic.Relation
import SdioFat32.Cells.Memory
import SdioFat32.Cells.Stream
import SdioFat32.Driver.Transfer

/-!
# Receiver — the receive FIFO and the card that fills it

Before every event the card may go on: a word arrives, or is lost to a full FIFO, or a flag comes
up.  The data flags stay up until they are cleared, the FIFO flags tell how many words are queued
when `STA` is read, and every other bit of `STA` is arbitrary.  This file defines:

* `receiver words inbox` — the environment; `inbox` is the buffer of the caller;
* `Steady` — what the card's progress and the clearing of command flags preserve;
* `wp_passive` — such a thing outlasts everything but accesses to the FIFO and to memory.
-/

namespace SdioFat32
namespace Driver

open Effects Cells Proc

/-! ## The FIFO -/

/-- The depth of the FIFO in words. -/
def fifoDepth : Nat := 32

/-- `DBCKEND` and `DATAEND`. -/
def rxEndFlags : BitVec 32 := sdioStaDbckend ||| sdioStaDataend

/-- The flags of a read that failed. -/
def rxErrorFlags : BitVec 32 :=
  sdioStaDtimeout ||| sdioStaDcrcfail ||| sdioStaStbiterr ||| sdioStaRxoverr

/-- The flags of `STA` that stay up until they are cleared. -/
def rxStaticFlags : BitVec 32 := rxErrorFlags ||| rxEndFlags

structure RxState where
  mem : Memory 32 (BitVec 8)
  dlen : BitVec 32
  /-- The data path is armed. -/
  enabled : Bool
  /-- How many words have arrived, those that were lost among them. -/
  arrived : Nat
  queue : List (BitVec 32)
  flags : BitVec 32

/-- No transfer has begun. -/
structure RxState.Fresh (s : RxState) : Prop where
  enabled : s.enabled = false
  arrived : s.arrived = 0
  queue : s.queue = []
  flags : hasFlag s.flags rxEndFlags = false

/-- The words of the transfer; `DLEN` has 25 bits. -/
def RxState.total (s : RxState) : Nat := s.dlen.toNat % 2 ^ 25 / 4

/-- The card goes on. -/
inductive Arrives (words : Nat → BitVec 32) : RxState → RxState → Prop where
  | word {s : RxState} : s.enabled = true → s.arrived < s.total → s.queue.length < fifoDepth →
      Arrives words s
        { s with arrived := s.arrived + 1, queue := s.queue ++ [words s.arrived] }
  | lost {s : RxState} : s.enabled = true → s.arrived < s.total → s.queue.length = fifoDepth →
      Arrives words s { s with arrived := s.arrived + 1, flags := s.flags ||| sdioStaRxoverr }
  /-- Flags come up, those of the end of the transfer only after its last word. -/
  | flag {s : RxState} (raised : BitVec 32) :
      (hasFlag raised rxEndFlags = true → s.enabled = true ∧ s.arrived = s.total) →
      Arrives words s { s with flags := s.flags ||| raised }

/-- A value of `STA`. -/
structure RxState.Shows (s : RxState) (sta : BitVec 32) : Prop where
  static : sta &&& rxStaticFlags = s.flags &&& rxStaticFlags
  full : hasFlag sta sdioStaRxfifof = true ↔ s.queue.length = fifoDepth
  half : hasFlag sta sdioStaRxfifohf = true ↔ 8 ≤ s.queue.length
  available : hasFlag sta sdioStaRxdavl = true ↔ 1 ≤ s.queue.length

/-- A word is taken out; an empty FIFO answers with anything. -/
def RxState.Pops (s : RxState) (w : BitVec 32) (s' : RxState) : Prop :=
  match s.queue with
  | [] => s' = s
  | head :: rest => w = head ∧ s' = { s with queue := rest }

def RxState.clear (s : RxState) (v : BitVec 32) : RxState := { s with flags := s.flags &&& ~~~v }

/-- The buffer of the caller, and memory as it was before the call. -/
structure Inbox where
  buffer : BitVec 32
  length : Nat
  before : Memory 32 (BitVec 8)

/-- Memory outside the buffer is as it was. -/
def Spares (inbox : Inbox) (s : RxState) : Prop :=
  ∀ x, ¬InRegion inbox.buffer inbox.length x → s.mem x = inbox.before x

/-- What the event writes to memory lies in the buffer. -/
def Within (inbox : Inbox) : SdioEvent → Prop
  | .store addr _ => ∀ x, InRegion addr 4 x → InRegion inbox.buffer inbox.length x
  | .memcpy dst _ n => ∀ x, InRegion dst n.toNat x → InRegion inbox.buffer inbox.length x
  | _ => True

/-- `ICR` is a register for writing and reads without a flag of the data path. -/
def receiver (words : Nat → BitVec 32) (inbox : Inbox) :
    Env SdioEvent SdioEvent.Response RxState where
  req s e := Spares inbox s ∧ Within inbox e ∧ (e = .read .fifo → s.queue ≠ [])
  step s e r s' :=
    ∃ s₁, Relation.ReflTransGen (Arrives words) s s₁ ∧
      match e, r with
      | .sta _, (sta : BitVec 32) => s₁.Shows sta ∧ s' = s₁
      | .read .fifo, (w : BitVec 32) => s₁.Pops w s'
      | .read .icr, (v : BitVec 32) => v &&& rxStaticFlags = 0#32 ∧ s' = s₁
      | .write .icr v, _ => s' = s₁.clear v
      | .write .dlen v, _ => s' = { s₁ with dlen := v }
      | .write .dctrl v, _ => s' = { s₁ with enabled := hasFlag v sdioDctrlDten }
      | .store addr w, _ => s' = { s₁ with mem := s₁.mem.store addr 4 (wordByte w) }
      | .memcpy dst src n, _ => s' = { s₁ with mem := s₁.mem.copy dst src n.toNat }
      | _, _ => s' = s₁

/-! ## Flags -/

section Flags

variable {s : RxState} {sta m : BitVec 32}

/-- `STA` shows the static flags as they are. -/
theorem RxState.Shows.hasFlag (h : s.Shows sta) (hm : rxStaticFlags &&& m = m) :
    Driver.hasFlag sta m = Driver.hasFlag s.flags m := by
  have hmask : ∀ x : BitVec 32, x &&& m = x &&& rxStaticFlags &&& m := fun x => by
    rw [BitVec.and_assoc, hm]
  rw [Driver.hasFlag, Driver.hasFlag, hmask sta, hmask s.flags, h.static]

end Flags

/-! ## What outlasts the progress of the card -/

/-- Kept by the card's progress and by the clearing of flags that are not of the data path. -/
structure Steady (words : Nat → BitVec 32) (inbox : Inbox) (I : RxState → Prop) : Prop where
  arrives : ∀ s s', Arrives words s s' → I s → I s'
  clears : ∀ s v, v &&& rxStaticFlags = 0#32 → I s → I (s.clear v)
  spared : ∀ s, I s → Spares inbox s

variable {words : Nat → BitVec 32} {inbox : Inbox} {I J : RxState → Prop} {fuel : Nat}
  {D : RxState → Prop} {g : SdGlobals} {s s' : RxState} {α : Type}

theorem Steady.drift (hI : Steady words inbox I)
    (h : Relation.ReflTransGen (Arrives words) s s') (hs : I s) : I s' := by
  induction h with
  | refl => exact hs
  | tail _ harrives ih => exact hI.arrives _ _ harrives ih

theorem Steady.and (hI : Steady words inbox I) (hJ : ∀ s s', Arrives words s s' → J s → J s')
    (hclears : ∀ s v, v &&& rxStaticFlags = 0#32 → J s → J (s.clear v)) :
    Steady words inbox (fun s => I s ∧ J s) where
  arrives s s' h hs := ⟨hI.arrives s s' h hs.1, hJ s s' h hs.2⟩
  clears s v hv hs := ⟨hI.clears s v hv hs.1, hclears s v hv hs.2⟩
  spared s hs := hI.spared s hs.1

/-- Events that touch neither the FIFO nor memory, and do not configure the data path. -/
def Passive : SdioEvent → Prop
  | .read .fifo => False
  | .write .icr _ => False
  | .write .dlen _ => False
  | .write .dctrl _ => False
  | .store _ _ => False
  | .memcpy _ _ _ => False
  | _ => True

theorem Steady.passive (hI : Steady words inbox I) {e : SdioEvent} {r : e.Response}
    (he : Passive e) (hs : I s) (hstep : (receiver words inbox).step s e r s') : I s' := by
  rcases hstep with ⟨s₁, hdrift, heffect⟩
  have h₁ := hI.drift hdrift hs
  cases e with
  | sta site => exact heffect.2 ▸ h₁
  | read reg =>
      cases reg with
      | fifo => exact he.elim
      | icr => exact heffect.2 ▸ h₁
      | _ => exact (show s' = s₁ from heffect) ▸ h₁
  | write reg v =>
      cases reg with
      | icr => exact he.elim
      | dlen => exact he.elim
      | dctrl => exact he.elim
      | _ => exact (show s' = s₁ from heffect) ▸ h₁
  | store addr w => exact he.elim
  | memcpy dst src n => exact he.elim
  | _ => exact (show s' = s₁ from heffect) ▸ h₁

theorem wp_passive (hI : Steady words inbox I) {p : SdProc α} (hp : p.Emits Passive True)
    (hs : I s) :
    p.wp (receiver words inbox) (Spares inbox) (fun _ _ s' => I s') g s := by
  refine wp_frame hp ?_ (fun s _ hs => hI.spared s hs) hs
  intro s e hs he
  have hwithin : Within inbox e := by
    cases e with
    | store addr w => exact he.elim
    | memcpy dst src n => exact he.elim
    | _ => trivial
  refine ⟨⟨hI.spared s hs, hwithin, ?_⟩, fun r s' hstep => hI.passive he hs hstep⟩
  rintro rfl
  exact he.elim

/-! ## Single events -/

theorem wp_readSta_receiver (hI : Steady words inbox I) {site : StaSite} (hs : I s) :
    (readSta site).wp (receiver words inbox) D
      (fun sta g' s' => g' = g ∧ I s' ∧ s'.Shows sta) g s := by
  refine ⟨⟨hI.spared s hs, trivial, ?_⟩, ?_⟩
  · rintro ⟨⟩
  · rintro sta s' ⟨s₁, hdrift, hshows, rfl⟩
    exact ⟨rfl, hI.drift hdrift hs, hshows⟩

theorem wp_readIcr_receiver (hI : Steady words inbox I) (hs : I s) :
    (readReg .icr).wp (receiver words inbox) D
      (fun (v : BitVec 32) g' s' => g' = g ∧ I s' ∧ v &&& rxStaticFlags = 0#32) g s := by
  refine ⟨⟨hI.spared s hs, trivial, ?_⟩, ?_⟩
  · rintro ⟨⟩
  · rintro v s' ⟨s₁, hdrift, hv, rfl⟩
    exact ⟨rfl, hI.drift hdrift hs, hv⟩

theorem wp_writeIcr_receiver (hI : Steady words inbox I) {v : BitVec 32} (hs : I s)
    (hclear : ∀ s, I s → J (s.clear v)) :
    (writeReg .icr v).wp (receiver words inbox) D (fun _ _ s' => J s') g s := by
  refine ⟨⟨hI.spared s hs, trivial, ?_⟩, ?_⟩
  · rintro ⟨⟩
  · rintro _ s' ⟨s₁, hdrift, rfl⟩
    exact hclear s₁ (hI.drift hdrift hs)

theorem wp_writeDlen_receiver (hI : Steady words inbox I) {v : BitVec 32} (hs : I s)
    (hset : ∀ s, I s → J { s with dlen := v }) :
    (writeReg .dlen v).wp (receiver words inbox) D (fun _ _ s' => J s') g s := by
  refine ⟨⟨hI.spared s hs, trivial, ?_⟩, ?_⟩
  · rintro ⟨⟩
  · rintro _ s' ⟨s₁, hdrift, rfl⟩
    exact hset s₁ (hI.drift hdrift hs)

theorem wp_writeDctrl_receiver (hI : Steady words inbox I) {v : BitVec 32} (hs : I s)
    (hset : ∀ s, I s → J { s with enabled := hasFlag v sdioDctrlDten }) :
    (writeReg .dctrl v).wp (receiver words inbox) D (fun _ _ s' => J s') g s := by
  refine ⟨⟨hI.spared s hs, trivial, ?_⟩, ?_⟩
  · rintro ⟨⟩
  · rintro _ s' ⟨s₁, hdrift, rfl⟩
    exact hset s₁ (hI.drift hdrift hs)

theorem wp_readFifo_receiver (hI : Steady words inbox I) (hs : I s) (hqueue : s.queue ≠ [])
    {Q : BitVec 32 → SdGlobals → RxState → Prop}
    (hpop : ∀ s₁ w rest, I s₁ → s₁.queue = w :: rest → Q w g { s₁ with queue := rest }) :
    (readReg .fifo).wp (receiver words inbox) D Q g s := by
  refine ⟨⟨hI.spared s hs, trivial, fun _ => hqueue⟩, ?_⟩
  rintro w s' ⟨s₁, hdrift, hpops⟩
  have h₁ := hI.drift hdrift hs
  -- The card takes nothing out.
  have hqueue₁ : s₁.queue ≠ [] := by
    clear hpops h₁
    induction hdrift with
    | refl => exact hqueue
    | tail _ harrives ih =>
        cases harrives with
        | word => simp
        | lost => exact ih
        | flag => exact ih
  unfold RxState.Pops at hpops
  rcases hsplit : s₁.queue with _ | ⟨head, rest⟩
  · exact absurd hsplit hqueue₁
  · rw [hsplit] at hpops
    rcases hpops with ⟨rfl, rfl⟩
    exact hpop s₁ w rest h₁ hsplit

theorem wp_storeWord_receiver (hI : Steady words inbox I) {addr w : BitVec 32} (hs : I s)
    (hwithin : Within inbox (.store addr w))
    (hstore : ∀ s, I s → J { s with mem := s.mem.store addr 4 (wordByte w) }) :
    (storeWord addr w).wp (receiver words inbox) D (fun _ _ s' => J s') g s := by
  refine ⟨⟨hI.spared s hs, hwithin, ?_⟩, ?_⟩
  · rintro ⟨⟩
  · rintro _ s' ⟨s₁, hdrift, rfl⟩
    exact hstore s₁ (hI.drift hdrift hs)

/-! ## Commands and their answers -/

theorem and_or_static {v flag : BitVec 32} (hv : v &&& rxStaticFlags = 0#32)
    (hflag : flag &&& rxStaticFlags = 0#32) : (v ||| flag) &&& rxStaticFlags = 0#32 := by
  have hdistrib : (v ||| flag) &&& rxStaticFlags =
      v &&& rxStaticFlags ||| flag &&& rxStaticFlags := by
    ext i
    simp [Bool.and_or_distrib_right]
  rw [hdistrib, hv, hflag]
  rfl

theorem wp_clearFlagSdio_receiver (hI : Steady words inbox I) {flag : BitVec 32}
    (hflag : flag &&& rxStaticFlags = 0#32) (hs : I s) :
    (clearFlagSdio flag).wp (receiver words inbox) D (fun _ _ s' => I s') g s := by
  unfold clearFlagSdio
  refine wp_seq (wp_readIcr_receiver hI hs) ?_
  rintro icr g₁ s₁ ⟨rfl, h₁, hicr⟩
  exact wp_writeIcr_receiver hI h₁ fun s hs => hI.clears s _ (and_or_static hicr hflag) hs

theorem wp_answerStatus_receiver (hI : Steady words inbox I) (hs : I s) :
    (answerStatus fuel sdioMaskStaticCmdFlags sdioMaskStaticCmdFlags).wp (receiver words inbox)
      (Spares inbox) (fun _ _ s' => I s') g s := by
  have hwait : (waitResponse fuel).Emits Passive True := by
    refine emits_iter (fun _ => (emits_perform trivial).bind ?_) fuel ()
    intro status
    exact emits_ite (emits_pure _) (emits_pure _)
  have hcmd : sdioMaskStaticCmdFlags &&& rxStaticFlags = 0#32 := by decide
  unfold answerStatus
  refine wp_seq (wp_passive hI hwait hs) ?_
  intro status g₁ s₁ h₁
  -- The three ends clear the same flags.
  split
  · refine wp_seq (wp_clearFlagSdio_receiver hI hcmd h₁) ?_
    intro _ g₂ s₂ h₂
    exact h₂
  · split
    · refine wp_seq (wp_clearFlagSdio_receiver hI hcmd h₁) ?_
      intro _ g₂ s₂ h₂
      exact h₂
    · refine wp_seq (wp_clearFlagSdio_receiver hI hcmd h₁) ?_
      intro _ g₂ s₂ h₂
      exact h₂

theorem wp_cmdResp1Error_receiver (hI : Steady words inbox I) {cs : CardStatus} (hs : I s) :
    (cmdResp1Error fuel cs).wp (receiver words inbox) (Spares inbox) (fun _ _ s' => I s') g s := by
  unfold cmdResp1Error
  refine wp_seq (wp_answerStatus_receiver hI hs) ?_
  intro status g₁ s₁ h₁
  split
  · exact h₁
  · refine wp_seq (wp_passive hI (emits_perform trivial) h₁) ?_
    intro response g₂ s₂ h₂
    exact h₂

theorem emits_sendCommandSdio_passive {command arg formatResp : BitVec 32} :
    (sendCommandSdio command arg formatResp).Emits Passive True :=
  (emits_perform trivial).bind fun _ => emits_perform trivial

theorem wp_sendStatusSd_receiver (hI : Steady words inbox I) {cs : CardStatus} (hs : I s) :
    (sendStatusSd fuel cs).wp (receiver words inbox) (Spares inbox) (fun _ _ s' => I s') g s := by
  unfold sendStatusSd
  rw [wp_bind, wp_globals]
  refine wp_seq (wp_passive hI emits_sendCommandSdio_passive hs) ?_
  intro _ g₁ s₁ h₁
  refine wp_seq (wp_cmdResp1Error_receiver hI h₁) ?_
  rintro ⟨status, cs'⟩ g₂ s₂ h₂
  dsimp only
  split
  · exact h₂
  · exact h₂

theorem wp_waitCardReadyLoop_receiver (hI : Steady words inbox I) (attempts : Nat) :
    ∀ {cs : CardStatus} {g : SdGlobals} {s : RxState}, I s →
      (waitCardReadyLoop fuel attempts cs).wp (receiver words inbox) (Spares inbox)
        (fun _ _ s' => I s') g s := by
  induction attempts with
  | zero =>
      intro cs g s hs
      exact hs
  | succ attempts ih =>
      intro cs g s hs
      unfold waitCardReadyLoop
      refine wp_seq (wp_sendStatusSd_receiver hI hs) ?_
      rintro ⟨status, cs'⟩ g₁ s₁ h₁
      dsimp only
      split
      · exact h₁
      · rw [wp_bind, wp_globals]
        split
        · exact h₁
        · refine wp_seq (wp_passive hI (emits_perform trivial) h₁) ?_
          intro _ g₂ s₂ h₂
          exact ih h₂

theorem wp_waitCardReady_receiver (hI : Steady words inbox I) (hs : I s) :
    (waitCardReady fuel).wp (receiver words inbox) (Spares inbox) (fun _ _ s' => I s') g s :=
  wp_waitCardReadyLoop_receiver hI 500 hs

theorem wp_cmdResp1bError_receiver (hI : Steady words inbox I) {cs : CardStatus} (hs : I s) :
    (cmdResp1bError fuel cs).wp (receiver words inbox) (Spares inbox) (fun _ _ s' => I s') g s := by
  unfold cmdResp1bError
  refine wp_seq (wp_cmdResp1Error_receiver hI hs) ?_
  rintro ⟨status, cs'⟩ g₁ s₁ h₁
  dsimp only
  split
  · exact h₁
  · split
    · exact h₁
    · refine wp_seq (wp_waitCardReady_receiver hI h₁) ?_
      intro status' g₂ s₂ h₂
      exact h₂

end Driver
end SdioFat32
