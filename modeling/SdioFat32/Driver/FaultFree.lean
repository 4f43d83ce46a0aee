import Mathlib.Logic.Relation
import SdioFat32.Driver.WriteDma

/-!
# FaultFree — a card that makes no error, fed by the program or by a stream of the controller

Before every event the stream may copy a word into the FIFO, if the peripheral asks it to, and the
card may take one out; `DATAEND` is up only after it has taken out all of `DLEN`.  A word in the
FIFO carries the address it was read from.  This file defines:

* `faultFree mem` — the environment, and `faultFreeSdio mem` its part that the driver sees;
* `Lasting` — what the progress of the stream and the card preserves;
* `wp_bystander` — such a thing outlasts every event that has no part in the transfer.
-/

namespace SdioFat32
namespace Driver

open Effects Proc

/-! ## A card without faults -/

/-- The flags of a command or a transfer that failed. -/
def faultFlags : BitVec 32 :=
  sdioStaTxunderr ||| sdioStaStbiterr ||| sdioStaDtimeout ||| sdioStaDcrcfail |||
    sdioStaCtimeout ||| sdioStaCcrcfail

structure WriteState where
  dlen : Nat
  dctrl : BitVec 32
  arg : BitVec 32
  /-- The arguments sent with `CMD25`. -/
  arguments : List (BitVec 32)
  /-- The address of the last load. -/
  source : BitVec 32
  /-- The words put into the FIFO, each with the address it was read from. -/
  pushed : List (BitVec 32 × BitVec 32)
  /-- How many of them the card has taken out. -/
  consumed : Nat
  /-- `CMAR0` and `CNDTR` of the stream, of 16 bits. -/
  cmar : BitVec 32
  cndtr : Nat
  /-- The stream is enabled, and has copied this many words since. -/
  active : Bool
  copied : Nat

/-- The words that reached the card. -/
def WriteState.received (s : WriteState) : List (BitVec 32 × BitVec 32) :=
  s.pushed.take s.consumed

/-- A word is put into the FIFO, or lost to a full one. -/
def WriteState.push (s : WriteState) (addr w : BitVec 32) : WriteState :=
  if s.pushed.length < s.consumed + 32 then { s with pushed := s.pushed ++ [(addr, w)] } else s

/-- The address the stream copies from next. -/
def WriteState.next (s : WriteState) : BitVec 32 := s.cmar + BitVec.ofNat 32 (4 * s.copied)

/-- The stream and the card go on. -/
inductive Advances (mem : BitVec 32 → BitVec 32) : WriteState → WriteState → Prop where
  | copy {s : WriteState} : s.active = true → hasFlag s.dctrl sdioDctrlDmaen = true →
      s.copied < s.cndtr → s.pushed.length < s.consumed + 32 →
      Advances mem s
        { s with copied := s.copied + 1, pushed := s.pushed ++ [(s.next, mem s.next)] }
  | consume {s : WriteState} : s.consumed < s.pushed.length →
      Advances mem s { s with consumed := s.consumed + 1 }

def multiWrite : BitVec 32 := commandWord cmdWriteMultipleBlock sdioCmdShortResp

def faultFreeSdio (mem : BitVec 32 → BitVec 32) : Env SdioEvent SdioEvent.Response WriteState where
  step s e r s' :=
    ∃ s₁, Relation.ReflTransGen (Advances mem) s s₁ ∧
      match e, r with
      | .sta _, (sta : BitVec 32) =>
          hasFlag sta faultFlags = false ∧
            (hasFlag sta sdioStaDataend = true → s₁.dlen ≤ 4 * s₁.consumed) ∧
            (hasFlag sta sdioStaTxfifohe = true → s₁.pushed.length + 8 ≤ s₁.consumed + 32) ∧
            s' = s₁
      | .read (.resp 0), (w : BitVec 32) => r1Error w = 0 ∧ s' = s₁
      | .read .dctrl, (v : BitVec 32) => v = s₁.dctrl ∧ s' = s₁
      | .write .dlen v, _ => s' = { s₁ with dlen := v.toNat % 2 ^ 25 }
      | .write .dctrl v, _ => s' = { s₁ with dctrl := v }
      | .write .arg v, _ => s' = { s₁ with arg := v }
      | .write .cmd w, _ =>
          s' = if w = multiWrite then { s₁ with arguments := s₁.arguments ++ [s₁.arg] } else s₁
      | .write .fifo w, _ => s' = s₁.push s₁.source w
      | .load addr, (w : BitVec 32) => w = mem addr ∧ s' = { s₁ with source := addr }
      | _, _ => s' = s₁

/-- A write to a register of the controller. -/
def WriteState.writeDma (s : WriteState) (v : BitVec 32) : DmaReg → WriteState
  | .streams 3 .ccr =>
      { s with
        active := hasFlag v dmaEn
        copied := if s.active = true then s.copied else 0 }
  | .streams 3 .cndtr => { s with cndtr := v.toNat % 2 ^ 16 }
  | .streams 3 .cmar0 => { s with cmar := v }
  | _ => s

def faultFree (mem : BitVec 32 → BitVec 32) : Env DmaEvent DmaEvent.Response WriteState where
  step s e r s' :=
    match e, r with
    | .sdio e, r => (faultFreeSdio mem).step s e r s'
    | .readDma _, _ => Relation.ReflTransGen (Advances mem) s s'
    | .writeDma reg v, _ =>
        ∃ s₁, Relation.ReflTransGen (Advances mem) s s₁ ∧ s' = s₁.writeDma v reg

variable {mem : BitVec 32 → BitVec 32} {D : WriteState → Prop} {g : SdGlobals}
  {s s' : WriteState} {fuel : Nat} {α : Type}

theorem wp_sdio {p : SdProc α} {Q : α → SdGlobals → WriteState → Prop}
    (h : p.wp (faultFreeSdio mem) D Q g s) : (sdio p).wp (faultFree mem) D Q g s := by
  have hreq : ∀ s e, (faultFreeSdio mem).req s e → (faultFree mem).req s (DmaEvent.sdio e) :=
    fun _ _ _ => trivial
  have hstep : ∀ s e (r : e.Response) s', (faultFree mem).step s (DmaEvent.sdio e) r s' →
      (faultFreeSdio mem).step s e r s' := fun _ _ _ _ h => h
  exact wp_embed hreq hstep h

/-! ## What lasts -/

/-- Kept by the stream and the card, and by a write to `ARG`. -/
structure Lasting (mem : BitVec 32 → BitVec 32) (I : WriteState → Prop) : Prop where
  advances : ∀ s s', Advances mem s s' → I s → I s'
  arg : ∀ s v, I s → I { s with arg := v }

variable {I J : WriteState → Prop}

theorem Lasting.drift (hI : Lasting mem I) (h : Relation.ReflTransGen (Advances mem) s s')
    (hs : I s) : I s' := by
  induction h with
  | refl => exact hs
  | tail _ hadvances ih => exact hI.advances _ _ hadvances ih

/-- Events that neither configure the data path nor put a word into the FIFO, and do not send
`CMD25`. -/
def Bystander : SdioEvent → Prop
  | .write .dlen _ => False
  | .write .dctrl _ => False
  | .write .fifo _ => False
  | .write .cmd w => w ≠ multiWrite
  | .load _ => False
  | _ => True

theorem Lasting.bystander (hI : Lasting mem I) {e : SdioEvent} {r : e.Response}
    (he : Bystander e) (hs : I s) (hstep : (faultFreeSdio mem).step s e r s') : I s' := by
  rcases hstep with ⟨s₁, hdrift, heffect⟩
  have h₁ := hI.drift hdrift hs
  cases e with
  | sta site => exact heffect.2.2.2 ▸ h₁
  | read reg =>
      cases reg with
      | resp i =>
          by_cases hi : i = 0
          · subst hi
            exact heffect.2 ▸ h₁
          · have hsame : s' = s₁ := by
              match i, hi, heffect with
              | ⟨i + 1, _⟩, _, heffect => exact heffect
            exact hsame ▸ h₁
      | dctrl => exact heffect.2 ▸ h₁
      | _ => exact (show s' = s₁ from heffect) ▸ h₁
  | write reg v =>
      cases reg with
      | dlen => exact he.elim
      | dctrl => exact he.elim
      | fifo => exact he.elim
      | arg => exact (show s' = _ from heffect) ▸ hI.arg s₁ v h₁
      -- A command that starts no transfer.
      | cmd =>
          have hother : v ≠ multiWrite := he
          have hsame : s' = s₁ := Eq.trans (show s' = _ from heffect) (if_neg hother)
          exact hsame ▸ h₁
      | _ => exact (show s' = s₁ from heffect) ▸ h₁
  | load addr => exact he.elim
  | _ => exact (show s' = s₁ from heffect) ▸ h₁

theorem wp_bystander (hI : Lasting mem I) {p : SdProc α} (hp : p.Emits Bystander True) (hs : I s) :
    p.wp (faultFreeSdio mem) (fun _ => True) (fun _ _ s' => I s') g s :=
  wp_frame hp (fun _ _ hs he => ⟨trivial, fun _ _ hstep => hI.bystander he hs hstep⟩)
    (fun _ _ _ => trivial) hs

theorem Dialogue.bystander {e : SdioEvent} (he : Dialogue (fun w => w ≠ multiWrite) e) :
    Bystander e := by
  cases e with
  | write reg v =>
      cases reg with
      | dlen => exact he.elim
      | dctrl => exact he.elim
      | fifo => exact he.elim
      | cmd => exact he
      | _ => trivial
  | load addr => exact he.elim
  | _ => trivial

/-! ## Single events -/

theorem wp_readSta_faultFree (hI : Lasting mem I) {site : StaSite} (hs : I s) :
    (readSta site).wp (faultFreeSdio mem) D
      (fun sta g' s' => g' = g ∧ I s' ∧ hasFlag sta faultFlags = false ∧
        (hasFlag sta sdioStaDataend = true → s'.dlen ≤ 4 * s'.consumed) ∧
        (hasFlag sta sdioStaTxfifohe = true → s'.pushed.length + 8 ≤ s'.consumed + 32)) g s := by
  refine ⟨trivial, ?_⟩
  rintro sta s' ⟨s₁, hdrift, hclean, hdataend, hroom, rfl⟩
  exact ⟨rfl, hI.drift hdrift hs, hclean, hdataend, hroom⟩

theorem wp_writeDlen_faultFree (hI : Lasting mem I) {v : BitVec 32} (hs : I s)
    (hset : ∀ s, I s → J { s with dlen := v.toNat % 2 ^ 25 }) :
    (writeReg .dlen v).wp (faultFreeSdio mem) D (fun _ _ s' => J s') g s := by
  refine ⟨trivial, ?_⟩
  rintro _ s' ⟨s₁, hdrift, rfl⟩
  exact hset s₁ (hI.drift hdrift hs)

theorem wp_writeDctrl_faultFree (hI : Lasting mem I) {v : BitVec 32} (hs : I s)
    (hset : ∀ s, I s → J { s with dctrl := v }) :
    (writeReg .dctrl v).wp (faultFreeSdio mem) D (fun _ _ s' => J s') g s := by
  refine ⟨trivial, ?_⟩
  rintro _ s' ⟨s₁, hdrift, rfl⟩
  exact hset s₁ (hI.drift hdrift hs)

theorem wp_writeDma (hI : Lasting mem I) {reg : DmaReg} {v : BitVec 32} (hs : I s)
    (hset : ∀ s, I s → J (s.writeDma v reg)) :
    (writeDma reg v).wp (faultFree mem) D (fun _ _ s' => J s') g s := by
  refine ⟨trivial, ?_⟩
  rintro _ s' ⟨s₁, hdrift, rfl⟩
  exact hset s₁ (hI.drift hdrift hs)

theorem wp_readDma (hI : Lasting mem I) {reg : DmaReg} (hs : I s) :
    (readDma reg).wp (faultFree mem) D (fun _ g' s' => g' = g ∧ I s') g s := by
  refine ⟨trivial, ?_⟩
  rintro v s' hdrift
  exact ⟨rfl, hI.drift hdrift hs⟩

theorem drift_arg (h : Relation.ReflTransGen (Advances mem) s s') : s'.arg = s.arg := by
  induction h with
  | refl => rfl
  | tail _ hadvances ih =>
      cases hadvances with
      | copy => exact ih
      | consume => exact ih

/-- `CMD25` is sent. -/
theorem wp_sendMultiWrite (hI : Lasting mem I) {address : BitVec 32} (hs : I s)
    (hsend : ∀ s, I s → J { s with arguments := s.arguments ++ [address] }) :
    (sendCommandSdio cmdWriteMultipleBlock address sdioCmdShortResp).wp (faultFreeSdio mem) D
      (fun _ _ s' => J s') g s := by
  refine ⟨trivial, ?_⟩
  rintro _ s' ⟨s₁, hdrift₁, rfl⟩
  refine ⟨trivial, ?_⟩
  rintro _ s' ⟨s₂, hdrift₂, hcmd⟩
  have h₂ := hI.drift hdrift₂ (hI.arg s₁ address (hI.drift hdrift₁ hs))
  have harg : s₂.arg = address := drift_arg hdrift₂
  have heffect : s' = { s₂ with arguments := s₂.arguments ++ [s₂.arg] } :=
    Eq.trans (show s' = _ from hcmd) (if_pos rfl)
  have hsent := hsend s₂ h₂
  rw [← harg] at hsent
  exact heffect ▸ hsent

/-! ## Commands on such a card -/

theorem wp_answerStatus_faultFree (hI : Lasting mem I) {onTimeout onCrc : BitVec 32} (hs : I s) :
    (answerStatus fuel onTimeout onCrc).wp (faultFreeSdio mem) (fun _ => True)
      (fun status _ s' => status = 0 ∧ I s') g s := by
  have hclear : ∀ flag : BitVec 32, (clearFlagSdio flag).Emits Bystander True := fun _ =>
    (emits_perform trivial).bind fun _ => emits_perform trivial
  have hwait : (waitResponse fuel).wp (faultFreeSdio mem) (fun _ => True)
      (fun status _ s' => hasFlag status faultFlags = false ∧ I s') g s := by
    refine wp_iter (fun _ _ s' => I s') ?_ (fun _ _ _ _ => trivial) fuel hs
    intro _ g₁ s₁ h₁
    refine wp_seq (wp_readSta_faultFree hI h₁) ?_
    rintro sta g₂ s₂ ⟨rfl, h₂, hclean, _⟩
    split
    · exact ⟨hclean, h₂⟩
    · exact h₂
  unfold answerStatus
  refine wp_seq hwait ?_
  rintro status g₁ s₁ ⟨hclean, h₁⟩
  have htimeout : hasFlag status sdioStaCtimeout = false := hasFlag_part_false (by decide) hclean
  have hcrc : hasFlag status sdioStaCcrcfail = false := hasFlag_part_false (by decide) hclean
  rw [htimeout, hcrc]
  simp only [Bool.false_eq_true, if_false]
  refine wp_seq (wp_bystander hI (hclear _) h₁) ?_
  intro _ g₂ s₂ h₂
  exact ⟨rfl, h₂⟩

theorem wp_cmdResp1Error_faultFree (hI : Lasting mem I) {cs : CardStatus} (hs : I s) :
    (cmdResp1Error fuel cs).wp (faultFreeSdio mem) (fun _ => True)
      (fun x _ s' => x.1 = 0 ∧ I s') g s := by
  unfold cmdResp1Error
  refine wp_seq (wp_answerStatus_faultFree hI hs) ?_
  rintro status g₁ s₁ ⟨rfl, h₁⟩
  rw [if_neg (by simp)]
  refine ⟨trivial, ?_⟩
  rintro w s' ⟨s₂, hdrift, hclean, rfl⟩
  exact ⟨hclean, hI.drift hdrift h₁⟩

end Driver
end SdioFat32
