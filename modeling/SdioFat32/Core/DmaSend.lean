import SdioFat32.Driver.WriteDma
import SdioFat32.Effects.Interference
import Mathlib.Logic.Function.Basic

/-!
# DmaSend — sends over stream 7 among its interrupts

`dma_send` waits for an entry of `dma_channels_busy` that nobody sets, and then takes the stream
over.  `DMA2_Stream7_IRQHandler` clears an entry that is not in the table.

* `streamHardware` — the stream and the table; a transfer ends at any time;
* `Turn` — what comes between two accesses of the sender: the end of a transfer, or a whole run of
  the handler, which sees the transfer end between its own accesses;
* `sends_safe` — no send cuts another off where each is called after the end of the one before, and
  no flag but that of half a transfer is served.
-/

namespace SdioFat32
namespace Core

open Effects Proc Relation
open Driver (StreamReg DmaReg hasFlag hasFlag_or dmaEn dmaMinc dmaMemToPeriph dmaChsel)

/-! ## `dma.h` -/

inductive DmaController where
  | dma1
  | dma2
  deriving DecidableEq

inductive DmaDirection where
  | periphToMem
  | memToPeriph
  deriving DecidableEq

structure DmaConfig where
  dma : DmaController
  stream : Fin 8
  channel : Fin 8
  direction : DmaDirection
  peripheralAddr : BitVec 32
  memSize : BitVec 32
  periphSize : BitVec 32
  incMem : Bool
  incPeriph : Bool
  circular : Bool

def dmaPinc : BitVec 32 := 1#32 <<< 9
def dmaCirc : BitVec 32 := 1#32 <<< 8

/-- The flag `offset` places into the flags of `stream`, in `HISR` and `HIFCR` alike.  For the
streams from 4 on the position is 32 or more, and what the compiler makes of the shift is left
open by the language: it is the parameter `wide`. -/
def dmaFlag (wide : Nat → BitVec 32) (stream : Fin 8) (offset : Nat) : BitVec 32 :=
  let position := stream.val * 6 + stream.val / 2 * 4 + offset
  if position < 32 then 1#32 <<< position else wide position

section Flags

variable (wide : Nat → BitVec 32) (stream : Fin 8)

def dmaFeif : BitVec 32 := dmaFlag wide stream 0
def dmaDmeif : BitVec 32 := dmaFlag wide stream 2
def dmaTeif : BitVec 32 := dmaFlag wide stream 3
def dmaHtif : BitVec 32 := dmaFlag wide stream 4
def dmaTcif : BitVec 32 := dmaFlag wide stream 5

end Flags

/-! ## The code -/

/-- Accesses to the controllers and to `dma_channels_busy`; `call` marks a call of `dma_send`. -/
inductive SendEvent where
  | call
  | readBusy (dmaIdx channel : Nat)
  | writeBusy (dmaIdx channel : Nat) (v : BitVec 8)
  | readDma (dma : DmaController) (r : DmaReg)
  | writeDma (dma : DmaController) (r : DmaReg) (v : BitVec 32)

def SendEvent.Response : SendEvent → Type
  | .call => Unit
  | .readBusy _ _ => BitVec 8
  | .writeBusy _ _ _ => Unit
  | .readDma _ _ => BitVec 32
  | .writeDma _ _ _ => Unit

abbrev SendProc (α : Type) : Type := Proc Unit SendEvent SendEvent.Response α

def readDma (dma : DmaController) (r : DmaReg) : SendProc (BitVec 32) :=
  perform (SendEvent.readDma dma r)

def writeDma (dma : DmaController) (r : DmaReg) (v : BitVec 32) : SendProc Unit :=
  perform (SendEvent.writeDma dma r v)

/-- The loop that waits until `EN` reads as zero. -/
def disabledLoop (fuel : Nat) (dma : DmaController) (stream : Fin 8) : SendProc Unit :=
  iter (fun _ => do
    let ccr ← readDma dma (.streams stream .ccr)
    if hasFlag ccr dmaEn then return .inl () else return .inr ()) fuel ()

/-- `CCR &= ~DMA_EN` -/
def clearEn (dma : DmaController) (stream : Fin 8) : SendProc Unit := do
  let ccr ← readDma dma (.streams stream .ccr)
  writeDma dma (.streams stream .ccr) (ccr &&& ~~~dmaEn)

def resetFlagsDma (wide : Nat → BitVec 32) (dma : DmaController) (stream : Fin 8) :
    SendProc Unit :=
  writeDma dma (if 4 ≤ stream.val then .hifcr else .lifcr)
    (dmaFeif wide stream ||| dmaDmeif wide stream ||| dmaTeif wide stream |||
      dmaHtif wide stream ||| dmaTcif wide stream)

def dmaInit (fuel : Nat) (cfg : DmaConfig) : SendProc Unit := do
  clearEn cfg.dma cfg.stream
  disabledLoop fuel cfg.dma cfg.stream
  writeDma cfg.dma (.streams cfg.stream .cndtr) 0#32
  writeDma cfg.dma (.streams cfg.stream .cmar0) 0#32
  writeDma cfg.dma (.streams cfg.stream .cpar) cfg.peripheralAddr
  writeDma cfg.dma (.streams cfg.stream .ccr)
    (dmaChsel (BitVec.ofNat 32 cfg.channel.val) ||| cfg.memSize ||| cfg.periphSize |||
      (if cfg.incMem then dmaMinc else 0#32) ||| (if cfg.incPeriph then dmaPinc else 0#32) |||
      (if cfg.circular then dmaCirc else 0#32) |||
      (if cfg.direction = .memToPeriph then dmaMemToPeriph else 0#32))

def isDmaChannelBusy (dmaIdx : Nat) (channel : Fin 8) : SendProc (BitVec 8) :=
  perform (SendEvent.readBusy dmaIdx channel.val)

/-- `(cfg->dma == DMA2_REG) ? 1 : 0` -/
def DmaController.idx (dma : DmaController) : Nat := if dma = .dma2 then 1 else 0

def busyLoop (fuel : Nat) (dmaIdx : Nat) (channel : Fin 8) : SendProc Unit :=
  iter (fun _ => do
    let busy ← isDmaChannelBusy dmaIdx channel
    if busy ≠ 0#8 then return .inl () else return .inr ()) fuel ()

def dmaSend (wide : Nat → BitVec 32) (fuel : Nat) (cfg : DmaConfig) (buffer length : BitVec 32) :
    SendProc Unit := do
  busyLoop fuel cfg.dma.idx cfg.channel
  clearEn cfg.dma cfg.stream
  disabledLoop fuel cfg.dma cfg.stream
  resetFlagsDma wide cfg.dma cfg.stream
  writeDma cfg.dma (.streams cfg.stream .cmar0) buffer
  writeDma cfg.dma (.streams cfg.stream .cndtr) length
  let ccr ← readDma cfg.dma (.streams cfg.stream .ccr)
  writeDma cfg.dma (.streams cfg.stream .ccr) (ccr ||| dmaEn)

/-- `if (dma->HISR & flag) { dma->HIFCR |= flag; ... }` -/
def serveFlag (flag : BitVec 32) (served : SendProc Unit) : SendProc Unit := do
  let hisr ← readDma .dma2 .hisr
  if hasFlag hisr flag then
    let hifcr ← readDma .dma2 .hifcr
    writeDma .dma2 .hifcr (hifcr ||| flag)
    served
  else return ()

/-- `dma_channels_busy[2][CHANNEL_7] = 0;` -/
def clearBusy : SendProc Unit := perform (SendEvent.writeBusy 2 7 0#8)

def dma2Stream7IrqHandler (wide : Nat → BitVec 32) : SendProc Unit := do
  serveFlag (dmaTcif wide 7) do
    clearEn .dma2 7
    clearBusy
  serveFlag (dmaTeif wide 7) clearBusy
  serveFlag (dmaDmeif wide 7) clearBusy
  serveFlag (dmaFeif wide 7) clearBusy
  serveFlag (dmaHtif wide 7) (return ())

/-- `dma_tx_config` of `init_uart`, with the address that `setup_uart` fills in. -/
def uartDmaTx : DmaConfig where
  dma := .dma2
  stream := 7
  channel := 4
  direction := .memToPeriph
  peripheralAddr := 0x40011004#32
  memSize := 0#32
  periphSize := 0#32
  incMem := true
  incPeriph := false
  circular := false

/-- Calls of `dma_send`, one after the other. -/
def dmaSends (wide : Nat → BitVec 32) (fuel : Nat) (cfg : DmaConfig) :
    List (BitVec 32 × BitVec 32) → SendProc Unit
  | [] => return ()
  | (buffer, length) :: sends => do
      perform SendEvent.call
      dmaSend wide fuel cfg buffer length
      dmaSends wide fuel cfg sends

/-- The stream is set up, and used. -/
def dmaSession (wide : Nat → BitVec 32) (fuel : Nat) (cfg : DmaConfig)
    (sends : List (BitVec 32 × BitVec 32)) : SendProc Unit := do
  dmaInit fuel cfg
  dmaSends wide fuel cfg sends

/-! ## The stream and the table -/

structure StreamState where
  ccr : BitVec 32
  /-- The transfer started last has neither completed nor failed. -/
  active : Bool
  /-- The table, by the offset of its entries. -/
  busy : Nat → BitVec 8
  /-- The entries accessed, in order. -/
  accesses : List (Nat × Nat)
  /-- A sender has written to the stream while its transfer was active. -/
  cutOff : Bool

def streamCcr : DmaReg := .streams 7 .ccr

/-- What is left open of the calls and of what the handler finds. -/
structure Conduct where
  mayCall : StreamState → Prop
  mayServe : BitVec 32 → Prop

def anyConduct : Conduct where
  mayCall _ := True
  mayServe _ := True

/-- Stream 7 and the table.  `EN` may read as set for a while after it was cleared, and every
register but `CCR` of the stream reads as anything. -/
def streamHardware (c : Conduct) : Env SendEvent SendEvent.Response StreamState where
  step s e r s' :=
    match e, r with
    | .call, _ => c.mayCall s ∧ s' = s
    | .readBusy dmaIdx channel, v =>
        v = s.busy (8 * dmaIdx + channel) ∧
          s' = { s with accesses := s.accesses ++ [(dmaIdx, channel)] }
    | .writeBusy dmaIdx channel v, _ =>
        s' = { s with
          busy := Function.update s.busy (8 * dmaIdx + channel) v
          accesses := s.accesses ++ [(dmaIdx, channel)] }
    | .readDma dma reg, v =>
        s' = s ∧ (dma = .dma2 → reg = .hisr → c.mayServe v) ∧
          (dma = .dma2 → reg = streamCcr → v = s.ccr ∨ v = s.ccr ||| dmaEn)
    | .writeDma dma reg v, _ =>
        s' = if dma = .dma2 ∧ reg = streamCcr then
          { s with ccr := v, active := s.active || hasFlag v dmaEn } else s

/-- No transfer was cut off, and every access was to the entry of the controller and the channel in
use, which is inside the table. -/
def StreamState.Good (s : StreamState) : Prop :=
  s.cutOff = false ∧
    ∀ a ∈ s.accesses, a.1 < 2 ∧ a.2 < 8 ∧ a = (uartDmaTx.dma.idx, uartDmaTx.channel.val)

/-- The event disables or reprograms the stream. -/
def SendEvent.touches : SendEvent → Bool
  | .writeDma .dma2 (.streams stream _) _ => decide (stream = 7)
  | _ => false

/-- The same for a sender, which must not touch the stream during a transfer. -/
def senderHardware (c : Conduct) : Env SendEvent SendEvent.Response StreamState where
  req s _ := s.Good
  step s e r s' := ∃ s₁, (streamHardware c).step s e r s₁ ∧
    s' = { s₁ with cutOff := s₁.cutOff || (s.active && e.touches) }

/-- The transfer completes or fails, and the stream is disabled. -/
inductive Finish : StreamState → StreamState → Prop where
  | mk {s : StreamState} : s.active = true →
      Finish s { s with ccr := s.ccr &&& ~~~dmaEn, active := false }

/-- One interrupt. -/
def Served (c : Conduct) (wide : Nat → BitVec 32) (s s' : StreamState) : Prop :=
  Runs ((streamHardware c).amid Finish) (dma2Stream7IrqHandler wide ()) s ((), ()) s'

def Turn (c : Conduct) (wide : Nat → BitVec 32) (s s' : StreamState) : Prop :=
  Finish s s' ∨ Served c wide s s'

/-- The sender among the ends of its transfers and the interrupts. -/
def senderEnv (c : Conduct) (wide : Nat → BitVec 32) :
    Env SendEvent SendEvent.Response StreamState :=
  (senderHardware c).amid (Turn c wide)

/-- Sends are called between transfers, and no interrupt finds a flag that it clears the table
for. -/
def calmConduct (wide : Nat → BitVec 32) : Conduct where
  mayCall s := s.active = false
  mayServe hisr :=
    hasFlag hisr (dmaTcif wide 7) = false ∧ hasFlag hisr (dmaTeif wide 7) = false ∧
      hasFlag hisr (dmaDmeif wide 7) = false ∧ hasFlag hisr (dmaFeif wide 7) = false

/-! ## Interrupts that find nothing -/

/-- The ghosts are as they were, and no transfer has started. -/
structure Quieter (s s' : StreamState) : Prop where
  cutOff : s'.cutOff = s.cutOff
  accesses : s'.accesses = s.accesses
  active : s'.active = true → s.active = true

theorem Quieter.refl (s : StreamState) : Quieter s s := ⟨rfl, rfl, id⟩

theorem Quieter.trans {s s₁ s' : StreamState} (h : Quieter s s₁) (h' : Quieter s₁ s') :
    Quieter s s' :=
  ⟨h'.cutOff.trans h.cutOff, h'.accesses.trans h.accesses, fun ha => h.active (h'.active ha)⟩

theorem Finish.quieter {s s' : StreamState} (h : Finish s s') : Quieter s s' := by
  cases h with
  | mk hactive => exact ⟨rfl, rfl, fun _ => hactive⟩

theorem stable_quieter (s₀ : StreamState) : Stable Finish (Quieter s₀) := by
  intro s s' hfinish hs
  exact hs.trans hfinish.quieter

section Handler

variable {c : Conduct} {wide : Nat → BitVec 32} {flag : BitVec 32} {served : SendProc Unit}
  {s₀ s s' : StreamState} {g : Unit}

/-- A flag that is not found costs one read. -/
theorem wp_serveFlag_notFound (hflag : ∀ v, c.mayServe v → hasFlag v flag = false)
    (hs : Quieter s₀ s) :
    (serveFlag flag served).wp ((streamHardware c).amid Finish) (fun _ => False)
      (fun _ _ s' => Quieter s₀ s') g s := by
  refine wp_bind.2 (wp_perform_amid (stable_quieter s₀) hs (fun _ _ => trivial) ?_)
  rintro s₁ hisr s' hs₁ ⟨rfl, hserve, _⟩
  rw [if_neg]
  · exact hs₁
  · rw [hflag hisr (hserve rfl rfl)]
    exact Bool.false_ne_true

/-- The flag of half a transfer is acknowledged, and that is all. -/
theorem wp_serveFlag_half (hs : Quieter s₀ s) :
    (serveFlag flag (return ())).wp ((streamHardware c).amid Finish) (fun _ => False)
      (fun _ _ s' => Quieter s₀ s') g s := by
  refine wp_bind.2 (wp_perform_amid (stable_quieter s₀) hs (fun _ _ => trivial) ?_)
  rintro s₁ hisr s' hs₁ ⟨rfl, _, _⟩
  split
  · refine wp_bind.2 (wp_perform_amid (stable_quieter s₀) hs₁ (fun _ _ => trivial) ?_)
    rintro s₂ hifcr s' hs₂ ⟨rfl, _, _⟩
    refine wp_bind.2 (wp_perform_amid (stable_quieter s₀) hs₂ (fun _ _ => trivial) ?_)
    rintro s₃ _ s' hs₃ hwrite
    have hsame : s' = s₃ := hwrite.trans (if_neg (by decide))
    rw [hsame]
    exact hs₃
  · exact hs₁

/-- An interrupt that finds none of the four flags leaves stream and table alone. -/
theorem Served.quieter (h : Served (calmConduct wide) wide s s') : Quieter s s' := by
  have hwp : (dma2Stream7IrqHandler wide).wp ((streamHardware (calmConduct wide)).amid Finish)
      (fun _ => False) (fun _ _ s' => Quieter s s') () s := by
    refine wp_seq (wp_serveFlag_notFound (fun _ hv => hv.1) (Quieter.refl s)) ?_
    intro _ _ s₁ h₁
    refine wp_seq (wp_serveFlag_notFound (fun _ hv => hv.2.1) h₁) ?_
    intro _ _ s₂ h₂
    refine wp_seq (wp_serveFlag_notFound (fun _ hv => hv.2.2.1) h₂) ?_
    intro _ _ s₃ h₃
    refine wp_seq (wp_serveFlag_notFound (fun _ hv => hv.2.2.2) h₃) ?_
    intro _ _ s₄ h₄
    exact wp_serveFlag_half h₄
  exact wp_runs hwp h

theorem Turn.quieter (h : Turn (calmConduct wide) wide s s') : Quieter s s' := by
  rcases h with hfinish | hserved
  · exact hfinish.quieter
  · exact hserved.quieter

end Handler

/-! ## Sends between transfers -/

/-- Good so far, and no transfer is under way. -/
def StreamState.Idle (s : StreamState) : Prop := s.Good ∧ s.active = false

section Sends

variable {wide : Nat → BitVec 32} {s s' : StreamState} {g : Unit} {cfg : DmaConfig}

theorem Quieter.good (h : Quieter s s') (hs : s.Good) : s'.Good := by
  refine ⟨h.cutOff.trans hs.1, ?_⟩
  rw [h.accesses]
  exact hs.2

theorem stable_good : Stable (Turn (calmConduct wide) wide) StreamState.Good := by
  intro s s' hturn hs
  exact hturn.quieter.good hs

theorem stable_idle : Stable (Turn (calmConduct wide) wide) StreamState.Idle := by
  intro s s' hturn hs
  refine ⟨hturn.quieter.good hs.1, ?_⟩
  cases hactive : s'.active with
  | false => rfl
  | true =>
      have := hturn.quieter.active hactive
      rw [hs.2] at this
      exact this.symm

/-- What the sender does to a stream that it has not started yet. -/
def SendEvent.Prepares : SendEvent → Prop
  | .call => False
  | .readBusy dmaIdx channel => dmaIdx = uartDmaTx.dma.idx ∧ channel = uartDmaTx.channel.val
  | .writeBusy _ _ _ => False
  | .readDma _ _ => True
  | .writeDma _ reg v => reg = streamCcr → hasFlag v dmaEn = false

theorem idle_step {e : SendEvent} {r : e.Response} (hs : s.Idle) (he : e.Prepares)
    (hstep : (senderHardware (calmConduct wide)).step s e r s') : s'.Idle := by
  rcases hstep with ⟨s₁, hstep, rfl⟩
  -- The stream is idle, so that no write to it cuts anything off.
  have hidle : ∀ touches, (s.active && touches) = false := by
    intro touches
    rw [hs.2]
    rfl
  rw [hidle, Bool.or_false]
  cases e with
  | call => exact he.elim
  | readBusy dmaIdx channel =>
      obtain ⟨_, rfl⟩ := hstep
      refine ⟨⟨hs.1.1, ?_⟩, hs.2⟩
      intro a ha
      rcases List.mem_append.mp ha with hold | hnew
      · exact hs.1.2 a hold
      · rw [List.mem_singleton.mp hnew, he.1, he.2]
        decide
  | writeBusy dmaIdx channel v => exact he.elim
  | readDma dma reg =>
      obtain ⟨rfl, _⟩ := hstep
      exact hs
  | writeDma dma reg v =>
      have hwrite : s₁ = if dma = .dma2 ∧ reg = streamCcr then
          { s with ccr := v, active := s.active || hasFlag v dmaEn } else s := hstep
      subst hwrite
      split
      next hccr =>
        refine ⟨hs.1, ?_⟩
        show (s.active || hasFlag v dmaEn) = false
        rw [hs.2, he hccr.2]
        rfl
      next => exact hs

theorem hasFlag_clearEn (ccr : BitVec 32) : hasFlag (ccr &&& ~~~dmaEn) dmaEn = false := by
  have hzero : ccr &&& ~~~dmaEn &&& dmaEn = 0#32 := by
    rw [BitVec.and_assoc, BitVec.not_and_self]
    exact BitVec.and_zero
  simp [hasFlag, hzero]

theorem emits_clearEn {dma : DmaController} {stream : Fin 8} {cut : Prop} :
    (clearEn dma stream).Emits SendEvent.Prepares cut :=
  (emits_perform trivial).bind fun ccr => emits_perform fun _ => hasFlag_clearEn ccr

theorem emits_disabledLoop {fuel : Nat} {dma : DmaController} {stream : Fin 8} :
    (disabledLoop fuel dma stream).Emits SendEvent.Prepares True := by
  refine emits_iter (fun _ => ?_) fuel ()
  refine (emits_perform trivial).bind fun ccr => ?_
  exact emits_ite (emits_pure _) (emits_pure _)

theorem emits_busyLoop {fuel : Nat} :
    (busyLoop fuel uartDmaTx.dma.idx uartDmaTx.channel).Emits SendEvent.Prepares True := by
  refine emits_iter (fun _ => ?_) fuel ()
  refine (emits_perform ⟨rfl, rfl⟩).bind fun (busy : BitVec 8) => ?_
  exact emits_ite (emits_pure _) (emits_pure _)

/-- Procedures that only prepare the stream leave it idle. -/
theorem wp_prepares {α : Type} {p : SendProc α} (hp : p.Emits SendEvent.Prepares True)
    (hs : s.Idle) :
    p.wp (senderEnv (calmConduct wide) wide) StreamState.Good (fun _ _ s' => s'.Idle) g s := by
  refine wp_frame_amid hp stable_idle (fun s e hI he => ⟨hI.1, ?_⟩) (fun s _ hI => hI.1) hs
  intro r s' hstep
  exact idle_step hI he hstep

theorem emits_dmaInit {fuel : Nat} :
    (dmaInit fuel uartDmaTx).Emits SendEvent.Prepares True := by
  refine emits_clearEn.bind fun _ => emits_disabledLoop.bind fun _ => ?_
  refine (emits_perform fun h => absurd h (by decide)).bind fun _ => ?_
  refine (emits_perform fun h => absurd h (by decide)).bind fun _ => ?_
  refine (emits_perform fun h => absurd h (by decide)).bind fun _ => ?_
  exact emits_perform fun _ => by decide

/-- Everything of `dma_send` before the stream is enabled. -/
theorem wp_dmaSend {fuel : Nat} {buffer length : BitVec 32} (hs : s.Idle) :
    (dmaSend wide fuel uartDmaTx buffer length).wp (senderEnv (calmConduct wide) wide)
      StreamState.Good (fun _ _ s' => s'.Good) g s := by
  refine wp_seq (wp_prepares emits_busyLoop hs) fun _ _ s₁ h₁ => ?_
  refine wp_seq (wp_prepares emits_clearEn h₁) fun _ _ s₂ h₂ => ?_
  refine wp_seq (wp_prepares emits_disabledLoop h₂) fun _ _ s₃ h₃ => ?_
  refine wp_seq (wp_prepares (emits_perform fun h => absurd h (by decide)) h₃) fun _ _ s₄ h₄ => ?_
  refine wp_seq (wp_prepares (emits_perform fun h => absurd h (by decide)) h₄) fun _ _ s₅ h₅ => ?_
  refine wp_seq (wp_prepares (emits_perform fun h => absurd h (by decide)) h₅) fun _ _ s₆ h₆ => ?_
  refine wp_seq (wp_prepares (emits_perform trivial) h₆) fun ccr _ s₇ h₇ => ?_
  -- The last write starts the transfer, on a stream that has none.
  refine wp_perform_amid stable_idle h₇ (fun _ h => h.1) ?_
  rintro s₈ _ s' h₈ ⟨s₉, hwrite, rfl⟩
  have hstarted : s₉ = if DmaController.dma2 = .dma2 ∧ streamCcr = streamCcr then
      { s₈ with ccr := ccr ||| dmaEn, active := s₈.active || hasFlag (ccr ||| dmaEn) dmaEn }
      else s₈ := hwrite
  rw [if_pos ⟨rfl, rfl⟩] at hstarted
  subst hstarted
  refine ⟨?_, h₈.1.2⟩
  show (s₈.cutOff || (s₈.active && _)) = false
  rw [h₈.1.1, h₈.2]
  rfl

theorem wp_dmaSends {fuel : Nat} {sends : List (BitVec 32 × BitVec 32)} (hs : s.Good) :
    (dmaSends wide fuel uartDmaTx sends).wp (senderEnv (calmConduct wide) wide)
      StreamState.Good (fun _ _ s' => s'.Good) g s := by
  induction sends generalizing s g with
  | nil => exact hs
  | cons send sends ih =>
      refine wp_bind.2 (wp_perform_amid stable_good hs (fun _ h => h) ?_)
      rintro s₁ _ s' h₁ ⟨s₂, ⟨hcall, rfl⟩, rfl⟩
      -- The call comes after the end of the transfer before it.
      have hidle : StreamState.Idle
          { s₂ with cutOff := s₂.cutOff || (s₂.active && SendEvent.call.touches) } := by
        refine ⟨⟨?_, h₁.2⟩, hcall⟩
        show (s₂.cutOff || (s₂.active && false)) = false
        rw [h₁.1, Bool.and_false]
        rfl
      refine wp_seq (wp_dmaSend hidle) ?_
      intro _ _ s₃ h₃
      exact ih h₃

theorem wp_dmaSession {fuel : Nat} {sends : List (BitVec 32 × BitVec 32)} (hs : s.Idle) :
    (dmaSession wide fuel uartDmaTx sends).wp (senderEnv (calmConduct wide) wide)
      StreamState.Good (fun _ _ s' => s'.Good) g s := by
  refine wp_seq (wp_prepares emits_dmaInit hs) ?_
  intro _ _ s₁ h₁
  exact wp_dmaSends h₁.1

end Sends

/-- Before the stream is set up. -/
structure StreamState.Fresh (s : StreamState) : Prop where
  active : s.active = false
  accesses : s.accesses = []
  cutOff : s.cutOff = false

/-- In every state that a session reaches, and in every state that the interrupts after it lead to,
no send has cut another off and every access was in place. -/
theorem sends_safe {wide : Nat → BitVec 32} {fuel : Nat} {sends : List (BitVec 32 × BitVec 32)}
    {s s' s'' : StreamState} {q : Prog SendEvent SendEvent.Response (Unit × Unit)}
    (hfresh : s.Fresh)
    (hreach : Reaches (senderEnv (calmConduct wide) wide)
      (dmaSession wide fuel uartDmaTx sends ()) s q s')
    (hturns : ReflTransGen (Turn (calmConduct wide) wide) s' s'') : s''.Good := by
  have hidle : s.Idle := by
    refine ⟨⟨hfresh.cutOff, ?_⟩, hfresh.active⟩
    rw [hfresh.accesses]
    exact fun a ha => absurd ha List.not_mem_nil
  refine stable_good.turns hturns ?_
  refine wp_invariant (wp_dmaSession hidle) (fun s e hreq => hreq s .refl) ?_ ?_ hreach
  · exact fun _ _ _ hgood => hgood
  · exact fun _ hgood => hgood

/-! ## Runs -/

/-- The positions of the flags, if the shifts are taken modulo 32. -/
def wrapped (n : Nat) : BitVec 32 := 1#32 <<< (n % 32)

def freshStream : StreamState where
  ccr := 0#32
  active := false
  busy _ := 0#8
  accesses := []
  cutOff := false

/-- Every register but `CCR` of the stream reads as `word`. -/
def promptStream (word : BitVec 32) (s : StreamState) :
    (e : SendEvent) → e.Response × StreamState
  | .call => ((), s)
  | .readBusy dmaIdx channel =>
      (s.busy (8 * dmaIdx + channel), { s with accesses := s.accesses ++ [(dmaIdx, channel)] })
  | .writeBusy dmaIdx channel v =>
      ((), { s with
        busy := Function.update s.busy (8 * dmaIdx + channel) v
        accesses := s.accesses ++ [(dmaIdx, channel)] })
  | .readDma dma reg => (if dma = .dma2 ∧ reg = streamCcr then s.ccr else word, s)
  | .writeDma dma reg v =>
      ((), if dma = .dma2 ∧ reg = streamCcr then
        { s with ccr := v, active := s.active || hasFlag v dmaEn } else s)

/-- The same for a sender. -/
def promptSender (s : StreamState) (e : SendEvent) : e.Response × StreamState :=
  let (r, s₁) := promptStream 0#32 s e
  (r, { s₁ with cutOff := s₁.cutOff || (s.active && e.touches) })

/-- A transfer ends before the next event of the sender. -/
def patientSender (s : StreamState) (e : SendEvent) : e.Response × StreamState :=
  promptSender (if s.active then { s with ccr := s.ccr &&& ~~~dmaEn, active := false } else s) e

theorem promptStream_step {c : Conduct} {word : BitVec 32} {s : StreamState} (e : SendEvent)
    (hcall : c.mayCall s) (hserve : c.mayServe word) :
    (streamHardware c).step s e (promptStream word s e).1 (promptStream word s e).2 := by
  cases e with
  | call => exact ⟨hcall, rfl⟩
  | readBusy dmaIdx channel => exact ⟨rfl, rfl⟩
  | writeBusy dmaIdx channel v => rfl
  | readDma dma reg =>
      refine ⟨rfl, ?_, ?_⟩
      · rintro rfl rfl
        exact hserve
      · rintro rfl rfl
        exact Or.inl rfl
  | writeDma dma reg v => rfl

theorem promptSender_step {wide : Nat → BitVec 32} (s : StreamState) (e : SendEvent) :
    (senderEnv anyConduct wide).step s e (promptSender s e).1 (promptSender s e).2 :=
  Env.amid_of_step ⟨_, promptStream_step e trivial trivial, rfl⟩

theorem patientSender_step {wide : Nat → BitVec 32} (s : StreamState) (e : SendEvent) :
    (senderEnv (calmConduct wide) wide).step s e (patientSender s e).1 (patientSender s e).2 := by
  have hserve : (calmConduct wide).mayServe 0#32 := by
    simp [calmConduct, hasFlag]
  unfold patientSender
  split
  next hactive =>
    refine ⟨{ s with ccr := s.ccr &&& ~~~dmaEn, active := false }, ?_, ?_⟩
    · exact .single (Or.inl (.mk hactive))
    · exact ⟨_, promptStream_step e rfl hserve, rfl⟩
  next hidle =>
    have hcall : (calmConduct wide).mayCall s := Bool.eq_false_iff.mpr hidle
    exact Env.amid_of_step ⟨_, promptStream_step e hcall hserve, rfl⟩

/-- Two sends, the second after the end of the first. -/
def twoSends : List (BitVec 32 × BitVec 32) := [(0x20001000#32, 64#32), (0x20002000#32, 16#32)]

theorem sends_safe_two :
    ∃ s', Reaches (senderEnv (calmConduct wrapped) wrapped)
        (dmaSession wrapped 1 uartDmaTx twoSends ()) freshStream (.ret ((), ())) s' ∧
      s'.accesses.length = 2 ∧ s'.Good := by
  have hexec : ((dmaSession wrapped 1 uartDmaTx twoSends ()).exec patientSender freshStream).map
      (fun x => (x.1.1, x.2.accesses.length)) = some ((), 2) := by decide +kernel
  rcases Prog.exec_ends (fun s : StreamState => s.accesses.length) patientSender_step hexec with
    ⟨_, s', hrun, hlen⟩
  have hreach := hrun.reaches
  exact ⟨s', hreach, hlen, sends_safe ⟨rfl, rfl, rfl⟩ hreach .refl⟩

/-- The second of two sends in a row stops the transfer of the first; and an interrupt at the end of
a transfer clears an entry outside the table. -/
theorem second_send_cuts_off :
    (∃ s', Runs (senderEnv anyConduct wrapped) (dmaSession wrapped 1 uartDmaTx twoSends ())
        freshStream ((), ()) s' ∧ s'.cutOff = true ∧ ¬ s'.Good) ∧
      ∃ s', Served anyConduct wrapped freshStream s' ∧ s'.accesses = [(2, 7)] ∧ ¬ s'.Good := by
  have hsends : ((dmaSession wrapped 1 uartDmaTx twoSends ()).exec promptSender freshStream).map
      (fun x => (x.1.1, x.2.cutOff)) = some ((), true) := by decide +kernel
  have hserved : ((dma2Stream7IrqHandler wrapped ()).exec
      (promptStream (dmaTcif wrapped 7)) freshStream).map
      (fun x => (x.1.1, x.2.accesses)) = some ((), [(2, 7)]) := by decide +kernel
  constructor
  · rcases Prog.exec_ends StreamState.cutOff promptSender_step hsends with ⟨_, s', hrun, hcut⟩
    refine ⟨s', hrun, hcut, fun hgood => ?_⟩
    rw [hgood.1] at hcut
    exact Bool.false_ne_true hcut
  · have hstep : ∀ s e, ((streamHardware anyConduct).amid Finish).step s e
        (promptStream (dmaTcif wrapped 7) s e).1 (promptStream (dmaTcif wrapped 7) s e).2 :=
      fun s e => Env.amid_of_step (promptStream_step e trivial trivial)
    rcases Prog.exec_ends StreamState.accesses hstep hserved with ⟨_, s', hrun, haccesses⟩
    refine ⟨s', hrun, haccesses, fun hgood => ?_⟩
    have hentry := hgood.2 (2, 7) (by rw [haccesses]; exact List.mem_singleton_self _)
    exact absurd hentry.1 (by decide)

end Core
end SdioFat32
