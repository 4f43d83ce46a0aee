import SdioFat32.Cells.Text
import SdioFat32.Core.BaudRate
import SdioFat32.Core.DmaSend
import SdioFat32.Core.Gpio

/-!
# Usart — the serial line of `drivers/core/usart.c`

A byte written to `DR` waits there until the shift register is empty, moves into it, and is on the
line when it has left it.  `TXE` tells that the first register is empty, `TC` that both are.

* `transmitter` — the two registers and the line, at any speed;
* `wp_sendDataUsart` — a message sent by polling goes out byte for byte, behind what was still
  under way;
* `wp_setupUart` — the line is set up while the transmitter is off.
-/

namespace SdioFat32
namespace Core

open Effects Cells Proc Relation
open Driver (hasFlag)

/-! ## `usart.h` -/

inductive UsartReg where
  | sr
  | dr
  | brr
  | cr1
  | cr2
  | cr3
  deriving DecidableEq, Repr

def usartSrTxe : BitVec 32 := 0x1#32 <<< 7
def usartSrTc : BitVec 32 := 0x1#32 <<< 6
def usartCr1Ue : BitVec 32 := 0x1#32 <<< 13
def usartCr1Te : BitVec 32 := 0x1#32 <<< 3
def usartCr1Re : BitVec 32 := 0x1#32 <<< 2
def usartCr3Dmat : BitVec 32 := 0x1#32 <<< 7
def usartCr3Dmar : BitVec 32 := 0x1#32 <<< 6

/-- The address of `DR` of the only `USART_Type` that is set up. -/
def usart1Dr : BitVec 32 := 0x40011004#32

inductive UartMode where
  | disable
  | polling
  | dma
  deriving DecidableEq

/-- A `DMA_Config` of zeros, whose controller is `NULL`, is `none`. -/
structure UartConfig where
  baudRate : BitVec 32
  txMode : UartMode
  rxMode : UartMode
  dmaTx : Option DmaConfig
  dmaRx : Option DmaConfig
  txPort : Option GpioPinConfig
  rxPort : Option GpioPinConfig

/-- `uart1_config` of `init_uart`. -/
def uart1Config : UartConfig where
  baudRate := 115200#32
  txMode := .polling
  rxMode := .polling
  dmaTx := some ⟨.dma2, 7, 4, .memToPeriph, 0#32, 0#32, 0#32, true, false, false⟩
  dmaRx := none
  txPort := some ⟨some .gpioa, 9#16, .alternate, .speed100MHz, .none, .pushpull, 7#4⟩
  rxPort := some ⟨some .gpioa, 10#16, .alternate, .speed100MHz, .none, .pushpull, 7#4⟩

structure UartHandle where
  txMode : UartMode
  rxMode : UartMode
  dmaTx : Option DmaConfig
  dmaRx : Option DmaConfig

inductive UsartEvent where
  | read (r : UsartReg)
  | write (r : UsartReg) (v : BitVec 32)
  /-- A byte of a message. -/
  | load (addr : BitVec 32)
  | setGpioConf (config : Option GpioPinConfig)
  | dmaInit (cfg : Option DmaConfig)
  | dmaSend (cfg : Option DmaConfig) (buffer length : BitVec 32)

def UsartEvent.Response : UsartEvent → Type
  | .read _ => BitVec 32
  | .write _ _ => Unit
  | .load _ => BitVec 8
  | .setGpioConf _ => Unit
  | .dmaInit _ => Unit
  | .dmaSend _ _ _ => Unit

/-- The globals are `huart`. -/
abbrev UsartProc (α : Type) : Type := Proc UartHandle UsartEvent UsartEvent.Response α

/-! ## `usart.c` -/

def readUsart (r : UsartReg) : UsartProc (BitVec 32) := perform (UsartEvent.read r)
def writeUsart (r : UsartReg) (v : BitVec 32) : UsartProc Unit := perform (UsartEvent.write r v)
def loadByte (addr : BitVec 32) : UsartProc (BitVec 8) := perform (UsartEvent.load addr)
def callSetGpioConf (config : Option GpioPinConfig) : UsartProc Unit :=
  perform (UsartEvent.setGpioConf config)
def callDmaSend (cfg : Option DmaConfig) (buffer length : BitVec 32) : UsartProc Unit :=
  perform (UsartEvent.dmaSend cfg buffer length)
def callDmaInit (cfg : Option DmaConfig) : UsartProc Unit :=
  perform (UsartEvent.dmaInit cfg)

/-- `usartx->reg |= mask` -/
def setUsart (r : UsartReg) (mask : BitVec 32) : UsartProc Unit := do
  let v ← readUsart r
  writeUsart r (v ||| mask)

/-- `while (!(uartx->SR & flag))` -/
def waitUsart (fuel : Nat) (flag : BitVec 32) : UsartProc Unit :=
  iter (fun _ => do
    let sr ← readUsart .sr
    if hasFlag sr flag then return .inr () else return .inl ()) fuel ()

def sendByteUsart (fuel : Nat) (byte : BitVec 8) : UsartProc Unit := do
  waitUsart fuel usartSrTxe
  writeUsart .dr (byte.setWidth 32)
  waitUsart fuel usartSrTc

/-- The `for` loop from `i` on. -/
def sendLoop (fuel : Nat) (message : BitVec 32) (i : Nat) : Nat → UsartProc Unit
  | 0 => return ()
  | left + 1 => do
      let byte ← loadByte (nth message i)
      sendByteUsart fuel byte
      sendLoop fuel message (i + 1) left

def sendDataUsart (fuel : Nat) (message : BitVec 32) (length : BitVec 16) : UsartProc Unit := do
  let huart ← globals
  if huart.txMode = .dma then callDmaSend huart.dmaTx message (length.setWidth 32)
  else sendLoop fuel message 0 length.toNat

/-- `usart_adapter` of `usart_board.c`. -/
def usartAdapter (fuel : Nat) (data : BitVec 32) (length : BitVec 32) : UsartProc Int := do
  sendDataUsart fuel data (length.setWidth 16)
  return 0

/-- A pin that is not given is left alone. -/
def setGpioConfIfAny (config : Option GpioPinConfig) : UsartProc Unit :=
  if config.isSome then callSetGpioConf config else return ()

/-- `CR3 |= flag` and `dma_init` for a direction that goes through a channel. -/
def setupChannel (mode : UartMode) (flag : BitVec 32) (channel : Option DmaConfig) :
    UsartProc Unit :=
  if mode = .dma then do
    setUsart .cr3 flag
    callDmaInit channel
  else return ()

/-- `CR1 |= flag` for a direction that is in use. -/
def enableDirection (mode : UartMode) (flag : BitVec 32) : UsartProc Unit :=
  if mode ≠ .disable then setUsart .cr1 flag else return ()

/-- A channel whose transfers go through `DR`. -/
def DmaConfig.atUsart1 (cfg : DmaConfig) : DmaConfig := { cfg with peripheralAddr := usart1Dr }

/-- `setup_uart` from the first access to `CR1` on. -/
def setupRegisters (cfg : UartConfig) (usartClk : BitVec 32) : UsartProc Unit := do
  let cr1 ← readUsart .cr1
  writeUsart .cr1 (cr1 &&& ~~~usartCr1Ue)
  writeUsart .brr (calculateUsartBrr usartClk cfg.baudRate)
  writeUsart .cr1 0#32
  writeUsart .cr2 0#32
  writeUsart .cr3 0#32
  setupChannel cfg.txMode usartCr3Dmat (cfg.dmaTx.map DmaConfig.atUsart1)
  -- The address goes to `dma_tx` a second time, not to `dma_rx`.
  setupChannel cfg.rxMode usartCr3Dmar cfg.dmaRx
  enableDirection cfg.txMode usartCr1Te
  enableDirection cfg.rxMode usartCr1Re
  setUsart .cr1 usartCr1Ue
  let _ ← readUsart .sr
  let _ ← readUsart .dr

def setupUart (cfg : Option UartConfig) (usartClk : BitVec 32) : UsartProc Unit := do
  match cfg with
  | none => return ()
  | some cfg =>
      assign fun _ =>
        { txMode := cfg.txMode, rxMode := cfg.rxMode, dmaTx := cfg.dmaTx, dmaRx := cfg.dmaRx }
      setGpioConfIfAny cfg.txPort
      setGpioConfIfAny cfg.rxPort
      setupRegisters cfg usartClk

/-! ## The transmitter -/

structure UartState where
  memory : Memory 32 (BitVec 8)
  brr : BitVec 32
  cr1 : BitVec 32
  cr2 : BitVec 32
  cr3 : BitVec 32
  /-- The byte in `DR`, and the byte in the shift register. -/
  held : Option (BitVec 8)
  shifting : Option (BitVec 8)
  /-- The bytes that were on the line. -/
  line : List (BitVec 8)

namespace UartState

/-- What was written and is not on the line yet. -/
def pending (s : UartState) : List (BitVec 8) := s.shifting.toList ++ s.held.toList

/-- Everything that is on the line or will be. -/
def output (s : UartState) : List (BitVec 8) := s.line ++ s.pending

structure Idle (s : UartState) : Prop where
  held : s.held = none
  shifting : s.shifting = none

structure Enabled (s : UartState) : Prop where
  usart : hasFlag s.cr1 usartCr1Ue = true
  transmitter : hasFlag s.cr1 usartCr1Te = true

/-- The transmitter goes on. -/
inductive Moves : UartState → UartState → Prop where
  | start {s : UartState} {b : BitVec 8} : s.Enabled → s.held = some b → s.shifting = none →
      Moves s { s with held := none, shifting := some b }
  | finish {s : UartState} {b : BitVec 8} : s.Enabled → s.shifting = some b →
      Moves s { s with shifting := none, line := s.line ++ [b] }

/-- A byte that is written before the last one has moved on takes its place. -/
def put (s : UartState) (r : UsartReg) (v : BitVec 32) : UartState :=
  match r with
  | .sr => s
  | .dr => { s with held := some (v.setWidth 8) }
  | .brr => { s with brr := v }
  | .cr1 =>
      -- What is under way is lost when the peripheral is disabled.
      if hasFlag v usartCr1Ue then { s with cr1 := v }
      else { s with cr1 := v, held := none, shifting := none }
  | .cr2 => { s with cr2 := v }
  | .cr3 => { s with cr3 := v }

/-- What a register reads as; `SR` and `DR` are not among them. -/
def get (s : UartState) : UsartReg → Option (BitVec 32)
  | .brr => some s.brr
  | .cr1 => some s.cr1
  | .cr2 => some s.cr2
  | .cr3 => some s.cr3
  | _ => none

/-- A value of `SR`; `TC` may be down on an idle line. -/
structure Shows (s : UartState) (sr : BitVec 32) : Prop where
  txe : hasFlag sr usartSrTxe = true ↔ s.held = none
  tc : hasFlag sr usartSrTc = true → s.Idle

end UartState

/-- The line is set up while it is disabled, and messages are sent by polling. -/
def transmitter : Env UsartEvent UsartEvent.Response UartState where
  req s e :=
    match e with
    | .write .brr _ => hasFlag s.cr1 usartCr1Ue = false
    | .write .cr2 _ => hasFlag s.cr1 usartCr1Ue = false
    | .write .cr3 _ => hasFlag s.cr1 usartCr1Ue = false
    | .dmaSend _ _ _ => False
    | _ => True
  step s e r s' :=
    ∃ s₁, ReflTransGen UartState.Moves s s₁ ∧
      match e, r with
      | .read .sr, (sr : BitVec 32) => s₁.Shows sr ∧ s' = s₁
      | .read reg, (v : BitVec 32) => (∀ x ∈ s₁.get reg, v = x) ∧ s' = s₁
      | .write reg v, _ => s' = s₁.put reg v
      | .load addr, (byte : BitVec 8) => byte = s₁.memory addr ∧ s' = s₁
      | _, _ => s' = s₁

variable {D : UartState → Prop} {g g' : UartHandle} {s s' s₁ : UartState}

/-! ## Sending -/

/-- Memory and the settings are as they were, and `text` was put behind the output. -/
structure Puts (text : List (BitVec 8)) (s s' : UartState) : Prop where
  memory : s'.memory = s.memory
  brr : s'.brr = s.brr
  cr1 : s'.cr1 = s.cr1
  cr2 : s'.cr2 = s.cr2
  cr3 : s'.cr3 = s.cr3
  output : s'.output = s.output ++ text

theorem Puts.refl (s : UartState) : Puts [] s s :=
  ⟨rfl, rfl, rfl, rfl, rfl, (List.append_nil _).symm⟩

theorem Puts.trans {text more : List (BitVec 8)} (h : Puts text s s₁) (h' : Puts more s₁ s') :
    Puts (text ++ more) s s' where
  memory := h'.memory.trans h.memory
  brr := h'.brr.trans h.brr
  cr1 := h'.cr1.trans h.cr1
  cr2 := h'.cr2.trans h.cr2
  cr3 := h'.cr3.trans h.cr3
  output := by rw [h'.output, h.output, List.append_assoc]

/-- What moves stays in order. -/
theorem puts_moves (h : s.Moves s') : Puts [] s s' := by
  cases h with
  | start henabled hheld hshifting =>
      refine ⟨rfl, rfl, rfl, rfl, rfl, ?_⟩
      simp [UartState.output, UartState.pending, hheld, hshifting]
  | finish henabled hshifting =>
      refine ⟨rfl, rfl, rfl, rfl, rfl, ?_⟩
      simp [UartState.output, UartState.pending, hshifting]

theorem puts_drift (h : ReflTransGen UartState.Moves s s') : Puts [] s s' := by
  induction h with
  | refl => exact Puts.refl s
  | tail _ hstep ih => exact ih.trans (puts_moves hstep)

theorem held_drift (h : ReflTransGen UartState.Moves s s') (hs : s.held = none) :
    s'.held = none := by
  induction h with
  | refl => exact hs
  | tail _ hstep ih =>
      cases hstep with
      | start henabled hheld => exact rfl
      | finish => exact ih

/-- A byte goes into an empty register. -/
theorem puts_dr {v : BitVec 32} (hs : s.held = none) : Puts [v.setWidth 8] s (s.put .dr v) := by
  refine ⟨rfl, rfl, rfl, rfl, rfl, ?_⟩
  simp [UartState.output, UartState.pending, UartState.put, hs]

theorem UartState.Idle.output_eq (h : s.Idle) : s.output = s.line := by
  simp [UartState.output, UartState.pending, h.held, h.shifting]

/-- A wait ends when its flag was seen. -/
theorem wp_waitUsart {fuel : Nat} {flag : BitVec 32} :
    (waitUsart fuel flag).wp transmitter (fun _ => True)
      (fun _ g' s' => g' = g ∧ Puts [] s s' ∧ ∃ sr, s'.Shows sr ∧ hasFlag sr flag = true) g s := by
  refine wp_iter (fun _ g' s' => g' = g ∧ Puts [] s s') ?_ (fun _ _ _ _ => trivial) fuel
    ⟨rfl, Puts.refl s⟩
  rintro _ _ s₁ ⟨rfl, hputs⟩
  refine wp_bind.2 (wp_perform.2 ⟨trivial, ?_⟩)
  rintro (sr : BitVec 32) s₂ ⟨s₃, hdrift, hshows, rfl⟩
  have hputs' : Puts [] s s₂ := hputs.trans (puts_drift hdrift)
  split
  · rename_i hflag
    exact ⟨rfl, hputs', sr, hshows, hflag⟩
  · exact ⟨rfl, hputs'⟩

theorem wp_sendByteUsart {fuel : Nat} {byte : BitVec 8} :
    (sendByteUsart fuel byte).wp transmitter (fun _ => True)
      (fun _ g' s' => g' = g ∧ Puts [byte] s s' ∧ s'.Idle) g s := by
  refine wp_seq wp_waitUsart ?_
  rintro _ _ s₁ ⟨rfl, hputs₁, sr, hshows₁, hflag₁⟩
  refine wp_bind.2 (wp_perform.2 ⟨trivial, ?_⟩)
  rintro _ s₂ ⟨s₃, hdrift, rfl⟩
  -- The register is empty, so no byte is overwritten.
  have hempty := held_drift hdrift (hshows₁.txe.1 hflag₁)
  have hnarrow : (byte.setWidth 32).setWidth 8 = byte := by simp
  have hbyte := puts_dr (v := byte.setWidth 32) hempty
  rw [hnarrow] at hbyte
  have hputs₂ : Puts [byte] s (s₃.put .dr (byte.setWidth 32)) :=
    (hputs₁.trans (puts_drift hdrift)).trans hbyte
  refine wp_mono wp_waitUsart ?_
  rintro _ _ s₄ ⟨rfl, hputs₄, sr', hshows₄, hflag₄⟩
  exact ⟨rfl, hputs₂.trans hputs₄, hshows₄.tc hflag₄⟩

theorem wp_sendLoop {fuel : Nat} {message : BitVec 32} (left : Nat) {i : Nat} :
    (sendLoop fuel message i left).wp transmitter (fun _ => True)
      (fun _ g' s' => g' = g ∧ Puts (bytesAt s.memory (nth message i) left) s s' ∧
        (0 < left ∨ s.Idle → s'.Idle)) g s := by
  induction left generalizing i g s with
  | zero =>
      refine ⟨rfl, Puts.refl s, ?_⟩
      rintro (hpos | hidle)
      · exact absurd hpos (Nat.lt_irrefl 0)
      · exact hidle
  | succ left ih =>
      refine wp_bind.2 (wp_perform.2 ⟨trivial, ?_⟩)
      rintro (byte : BitVec 8) s₁ ⟨s₂, hdrift, hbyte, rfl⟩
      have hputs₁ := puts_drift hdrift
      refine wp_seq wp_sendByteUsart ?_
      rintro _ _ s₃ ⟨rfl, hputs₃, hidle₃⟩
      refine wp_mono ih ?_
      rintro _ _ s₄ ⟨rfl, hputs₄, hidle₄⟩
      refine ⟨rfl, ?_, fun _ => hidle₄ (Or.inr hidle₃)⟩
      -- The first byte, and then the others.
      have hall := (hputs₁.trans hputs₃).trans hputs₄
      rw [hputs₃.memory, hputs₁.memory] at hall
      rw [hputs₁.memory] at hbyte
      rw [bytesAt_succ, nth_nth, ← hbyte]
      exact hall

/-- A message sent by polling. -/
theorem wp_sendDataUsart {fuel : Nat} {message : BitVec 32} {length : BitVec 16}
    (hmode : g.txMode ≠ .dma) :
    (sendDataUsart fuel message length).wp transmitter (fun _ => True)
      (fun _ g' s' => g' = g ∧ Puts (bytesAt s.memory message length.toNat) s s' ∧
        (0 < length.toNat ∨ s.Idle → s'.Idle)) g s := by
  refine wp_bind.2 (wp_globals.2 ?_)
  rw [if_neg hmode]
  have hloop : (sendLoop fuel message 0 length.toNat).wp transmitter (fun _ => True) _ g s :=
    wp_sendLoop length.toNat
  rw [nth_zero] at hloop
  exact hloop

/-- A length that fits in 16 bits is sent whole. -/
theorem wp_usartAdapter {fuel : Nat} {data length : BitVec 32} (hmode : g.txMode ≠ .dma)
    (hlength : length.toNat < 2 ^ 16) :
    (usartAdapter fuel data length).wp transmitter (fun _ => True)
      (fun _ g' s' => g' = g ∧ Puts (bytesAt s.memory data length.toNat) s s' ∧
        (0 < length.toNat ∨ s.Idle → s'.Idle)) g s := by
  have hnarrow : (length.setWidth 16).toNat = length.toNat := by
    rw [BitVec.toNat_setWidth, Nat.mod_eq_of_lt hlength]
  refine wp_seq (wp_sendDataUsart hmode) fun _ g' s' hsent => ?_
  rw [hnarrow] at hsent
  exact hsent

/-! ## The setup -/

theorem idle_drift (hs : s.Idle) (h : ReflTransGen UartState.Moves s s') : s' = s := by
  induction h with
  | refl => exact rfl
  | tail _ hstep ih =>
      subst ih
      cases hstep with
      | start henabled hheld => exact absurd (hs.held.symm.trans hheld) nofun
      | finish henabled hshifting => exact absurd (hs.shifting.symm.trans hshifting) nofun

/-- The line between two writes of the setup, with nothing under way. -/
structure Resting (brr cr1 cr2 cr3 : BitVec 32) (s s' : UartState) : Prop where
  brr : s'.brr = brr
  cr1 : s'.cr1 = cr1
  cr2 : s'.cr2 = cr2
  cr3 : s'.cr3 = cr3
  idle : s'.Idle
  memory : s'.memory = s.memory
  line : s'.line = s.line

variable {brr cr1 cr2 cr3 v : BitVec 32}

theorem Resting.put_cr1 (h : Resting brr cr1 cr2 cr3 s s₁) :
    Resting brr v cr2 cr3 s (s₁.put .cr1 v) := by
  simp only [UartState.put]
  split
  · exact ⟨h.brr, rfl, h.cr2, h.cr3, ⟨h.idle.held, h.idle.shifting⟩, h.memory, h.line⟩
  · exact ⟨h.brr, rfl, h.cr2, h.cr3, ⟨rfl, rfl⟩, h.memory, h.line⟩

theorem Resting.put_brr (h : Resting brr cr1 cr2 cr3 s s₁) :
    Resting v cr1 cr2 cr3 s (s₁.put .brr v) :=
  ⟨rfl, h.cr1, h.cr2, h.cr3, ⟨h.idle.held, h.idle.shifting⟩, h.memory, h.line⟩

theorem Resting.put_cr2 (h : Resting brr cr1 cr2 cr3 s s₁) :
    Resting brr cr1 v cr3 s (s₁.put .cr2 v) :=
  ⟨h.brr, h.cr1, rfl, h.cr3, ⟨h.idle.held, h.idle.shifting⟩, h.memory, h.line⟩

theorem Resting.put_cr3 (h : Resting brr cr1 cr2 cr3 s s₁) :
    Resting brr cr1 cr2 v s (s₁.put .cr3 v) :=
  ⟨h.brr, h.cr1, h.cr2, rfl, ⟨h.idle.held, h.idle.shifting⟩, h.memory, h.line⟩

/-- On an idle line nothing happens between two events. -/
theorem wp_writeUsart_idle {r : UsartReg} (hs : s.Idle) (hreq : transmitter.req s (.write r v)) :
    (writeUsart r v).wp transmitter D (fun _ g' s' => g' = g ∧ s' = s.put r v) g s := by
  refine wp_perform.2 ⟨hreq, ?_⟩
  rintro _ s' ⟨s₁, hdrift, rfl⟩
  exact ⟨rfl, by rw [idle_drift hs hdrift]⟩

theorem wp_setUsart_idle {r : UsartReg} {mask : BitVec 32} (hs : s.Idle)
    (hr : s.get r = some v) (hreq : ∀ w, transmitter.req s (.write r w)) :
    (setUsart r mask).wp transmitter D (fun _ g' s' => g' = g ∧ s' = s.put r (v ||| mask))
      g s := by
  have hread : (readUsart r).wp transmitter D (fun w g' s' => w = v ∧ g' = g ∧ s' = s) g s := by
    refine wp_perform.2 ⟨by cases r <;> trivial, ?_⟩
    rintro (w : BitVec 32) s' ⟨s₁, hdrift, hstep⟩
    have hs₁ := idle_drift hs hdrift
    subst hs₁
    cases r <;> first | exact ⟨hstep.1 v hr, rfl, hstep.2⟩ | exact absurd hr nofun
  refine wp_seq hread ?_
  rintro w _ _ ⟨rfl, rfl, rfl⟩
  exact wp_writeUsart_idle hs (hreq _)

theorem wp_setGpioConfIfAny {config : Option GpioPinConfig} :
    (setGpioConfIfAny config).wp transmitter D (fun _ g' s' => g' = g ∧ Puts [] s s') g s := by
  unfold setGpioConfIfAny
  split
  · refine wp_perform.2 ⟨trivial, ?_⟩
    rintro _ s' ⟨s₁, hdrift, rfl⟩
    exact ⟨rfl, puts_drift hdrift⟩
  · exact ⟨rfl, Puts.refl s⟩

theorem wp_setupChannel {mode : UartMode} {flag : BitVec 32} {channel : Option DmaConfig}
    (hoff : hasFlag cr1 usartCr1Ue = false) (h : Resting brr cr1 cr2 cr3 s s₁) :
    (setupChannel mode flag channel).wp transmitter D
      (fun _ g' s' => g' = g ∧
        Resting brr cr1 cr2 (cr3 ||| if mode = .dma then flag else 0#32) s s') g s₁ := by
  unfold setupChannel
  split
  · have hwrite : ∀ w, transmitter.req s₁ (.write .cr3 w) := fun _ => by
      show hasFlag s₁.cr1 usartCr1Ue = false
      rw [h.cr1]
      exact hoff
    have hcr3 : s₁.get .cr3 = some cr3 := congrArg some h.cr3
    refine wp_seq (wp_setUsart_idle h.idle hcr3 hwrite) ?_
    rintro _ _ _ ⟨rfl, rfl⟩
    refine wp_perform.2 ⟨trivial, ?_⟩
    rintro _ s₂ ⟨s₃, hdrift, rfl⟩
    have hrest := h.put_cr3 (v := cr3 ||| flag)
    rw [idle_drift hrest.idle hdrift]
    exact ⟨rfl, hrest⟩
  · rw [BitVec.or_zero]
    exact ⟨rfl, h⟩

theorem wp_setCr1 {flag : BitVec 32} (h : Resting brr cr1 cr2 cr3 s s₁) :
    (setUsart .cr1 flag).wp transmitter D
      (fun _ g' s' => g' = g ∧ Resting brr (cr1 ||| flag) cr2 cr3 s s') g s₁ := by
  have hcr1 : s₁.get .cr1 = some cr1 := congrArg some h.cr1
  refine wp_mono (wp_setUsart_idle h.idle hcr1 fun _ => trivial) ?_
  rintro _ _ _ ⟨rfl, rfl⟩
  exact ⟨rfl, h.put_cr1⟩

theorem wp_enableDirection {mode : UartMode} {flag : BitVec 32}
    (h : Resting brr cr1 cr2 cr3 s s₁) :
    (enableDirection mode flag).wp transmitter D
      (fun _ g' s' => g' = g ∧
        Resting brr (cr1 ||| if mode ≠ .disable then flag else 0#32) cr2 cr3 s s') g s₁ := by
  unfold enableDirection
  split
  · exact wp_setCr1 h
  · rw [BitVec.or_zero]
    exact ⟨rfl, h⟩

theorem wp_readUsart_idle {r : UsartReg} (h : Resting brr cr1 cr2 cr3 s s₁) :
    (readUsart r).wp transmitter D
      (fun _ g' s' => g' = g ∧ Resting brr cr1 cr2 cr3 s s') g s₁ := by
  refine wp_perform.2 ⟨by cases r <;> trivial, ?_⟩
  rintro (w : BitVec 32) s₂ ⟨s₃, hdrift, hstep⟩
  have hs₃ := idle_drift h.idle hdrift
  subst hs₃
  have hsame : s₂ = s₃ := by cases r <;> exact hstep.2
  subst hsame
  exact ⟨rfl, h⟩

/-- The line as `cfg` has it; what was still under way is lost. -/
theorem wp_setupUart {cfg : UartConfig} {usartClk : BitVec 32} :
    (setupUart (some cfg) usartClk).wp transmitter D
      (fun _ g' s' => g'.txMode = cfg.txMode ∧ ∃ s₁, Puts [] s s₁ ∧
        Resting (calculateUsartBrr usartClk cfg.baudRate)
          (0#32 ||| (if cfg.txMode ≠ .disable then usartCr1Te else 0#32) |||
            (if cfg.rxMode ≠ .disable then usartCr1Re else 0#32) ||| usartCr1Ue) 0#32
          (0#32 ||| (if cfg.txMode = .dma then usartCr3Dmat else 0#32) |||
            (if cfg.rxMode = .dma then usartCr3Dmar else 0#32)) s₁ s') g s := by
  refine wp_bind.2 (wp_assign.2 ?_)
  refine wp_seq wp_setGpioConfIfAny ?_
  rintro _ _ s₁ ⟨rfl, hputs₁⟩
  refine wp_seq wp_setGpioConfIfAny ?_
  rintro _ _ s₂ ⟨rfl, hputs₂⟩
  refine wp_bind.2 (wp_perform.2 ⟨trivial, ?_⟩)
  rintro (cr1 : BitVec 32) s₃ ⟨_, hdrift₃, _, rfl⟩
  refine wp_bind.2 (wp_perform.2 ⟨trivial, ?_⟩)
  rintro _ s₄ ⟨s₅, hdrift₄, rfl⟩
  have hputs : Puts [] s s₅ :=
    ((hputs₁.trans hputs₂).trans (puts_drift hdrift₃)).trans (puts_drift hdrift₄)
  -- From here on the peripheral is disabled, and the line is at rest.
  have hoff : hasFlag (cr1 &&& ~~~usartCr1Ue) usartCr1Ue = false := by
    have hapart : ~~~usartCr1Ue &&& usartCr1Ue = 0#32 := by decide
    rw [hasFlag, BitVec.and_assoc, hapart, BitVec.and_zero]
    exact rfl
  have hrest₄ : Resting s₅.brr (cr1 &&& ~~~usartCr1Ue) s₅.cr2 s₅.cr3 s₅
      (s₅.put .cr1 (cr1 &&& ~~~usartCr1Ue)) := by
    simp only [UartState.put, hoff]
    exact ⟨rfl, rfl, rfl, rfl, ⟨rfl, rfl⟩, rfl, rfl⟩
  have hzero : hasFlag 0#32 usartCr1Ue = false := by decide
  refine wp_seq (wp_writeUsart_idle hrest₄.idle ?_) ?_
  · show hasFlag _ usartCr1Ue = false
    rw [hrest₄.cr1]
    exact hoff
  rintro _ _ _ ⟨rfl, rfl⟩
  have hrest₅ := hrest₄.put_brr (v := calculateUsartBrr usartClk cfg.baudRate)
  refine wp_seq (wp_writeUsart_idle hrest₅.idle trivial) ?_
  rintro _ _ _ ⟨rfl, rfl⟩
  have hrest₆ := hrest₅.put_cr1 (v := 0#32)
  refine wp_seq (wp_writeUsart_idle hrest₆.idle ?_) ?_
  · show hasFlag _ usartCr1Ue = false
    rw [hrest₆.cr1]
    exact hzero
  rintro _ _ _ ⟨rfl, rfl⟩
  have hrest₇ := hrest₆.put_cr2 (v := 0#32)
  refine wp_seq (wp_writeUsart_idle hrest₇.idle ?_) ?_
  · show hasFlag _ usartCr1Ue = false
    rw [hrest₇.cr1]
    exact hzero
  rintro _ _ _ ⟨rfl, rfl⟩
  have hrest₈ := hrest₇.put_cr3 (v := 0#32)
  refine wp_seq (wp_setupChannel hzero hrest₈) ?_
  rintro _ _ s₉ ⟨rfl, hrest₉⟩
  refine wp_seq (wp_setupChannel hzero hrest₉) ?_
  rintro _ _ s₁₀ ⟨rfl, hrest₁₀⟩
  refine wp_seq (wp_enableDirection hrest₁₀) ?_
  rintro _ _ s₁₁ ⟨rfl, hrest₁₁⟩
  refine wp_seq (wp_enableDirection hrest₁₁) ?_
  rintro _ _ s₁₂ ⟨rfl, hrest₁₂⟩
  refine wp_seq (wp_setCr1 hrest₁₂) ?_
  rintro _ _ s₁₃ ⟨rfl, hrest₁₃⟩
  refine wp_seq (wp_readUsart_idle hrest₁₃) ?_
  rintro _ _ s₁₄ ⟨rfl, hrest₁₄⟩
  refine wp_seq (wp_readUsart_idle hrest₁₄) ?_
  rintro _ _ s₁₅ ⟨rfl, hrest₁₅⟩
  exact ⟨rfl, s₅, hputs, hrest₁₅⟩

end Core
end SdioFat32
