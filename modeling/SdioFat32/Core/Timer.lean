import SdioFat32.Core.ClockReport
import SdioFat32.Effects.Interference
import SdioFat32.Effects.Interp

/-!
# Timer — the delays of `drivers/core/timer.c`

`init_timer` derives the prescaler of TIM2 from the clocks that the RCC reports, and `delay_timer`
lets the counter run over once.

* `Tim2.tick` — one cycle of the timer clock;
* `timerHardware` — the RCC and TIM2: any number of cycles passes before an access, and reading
  `SR` takes one of its own.

`elapsed` and `waited` are not registers: they record when the counter was enabled and when the
first update event came.
-/

namespace SdioFat32
namespace Core

open Effects Proc Relation

/-! ## Registers -/

inductive Tim2Reg where
  | cr1
  | sr
  | egr
  | cnt
  | psc
  | arr
  deriving DecidableEq, Repr

inductive TimerEvent where
  | rcc (e : RccEvent)
  | read (r : Tim2Reg)
  | write (r : Tim2Reg) (v : BitVec 32)

def TimerEvent.Response : TimerEvent → Type
  | .rcc e => e.Response
  | .read _ => BitVec 32
  | .write _ _ => Unit

abbrev TimerProc (α : Type) : Type := Proc Unit TimerEvent TimerEvent.Response α

def timerCr1Arpe : BitVec 32 := 0x1#32 <<< 7
def timerCr1Cen : BitVec 32 := 0x1#32 <<< 0
def timerSrUif : BitVec 32 := 0x1#32 <<< 0
def timerEgrUg : BitVec 32 := 0x1#32 <<< 0

def readTimer (r : Tim2Reg) : TimerProc (BitVec 32) := perform (TimerEvent.read r)
def writeTimer (r : Tim2Reg) (v : BitVec 32) : TimerProc Unit := perform (TimerEvent.write r v)

/-- `timer->reg |= mask` -/
def setTimer (r : Tim2Reg) (mask : BitVec 32) : TimerProc Unit := do
  let v ← readTimer r
  writeTimer r (v ||| mask)

/-- `timer->reg &= ~mask` -/
def clearTimer (r : Tim2Reg) (mask : BitVec 32) : TimerProc Unit := do
  let v ← readTimer r
  writeTimer r (v &&& ~~~mask)

/-- A call of a function of `rcc.c`. -/
def callRcc {α : Type} (p : RccProc α) : TimerProc α := p.embed TimerEvent.rcc fun _ r => r

/-! ## `timer.c` -/

def initTimer : TimerProc Unit := do
  let rccClocks ← callRcc (getClockFrequencies
    { sysclkFreq := 0#32, hclkFreq := 0#32, apb1Freq := 0#32, apb2Freq := 0#32 })
  let rccConfig ← callRcc getRccClockDividers
  writeTimer .cr1 0#32
  let timerClk :=
    if 1#8 < rccConfig.apb1Prescaler then rccClocks.apb1Freq * 2#32 else rccClocks.apb1Freq
  writeTimer .psc (timerClk / 1000#32 - 1#32)
  setTimer .cr1 timerCr1Arpe
  writeTimer .egr timerEgrUg

/-- One round of `while (!(timer->SR & TIMER_SR_UIF))`. -/
def pollUpdate (_ : Unit) : TimerProc (Unit ⊕ Unit) := do
  let sr ← readTimer .sr
  if sr &&& timerSrUif = 0#32 then return .inl ()
  return .inr ()

/-- The loop is cut off after `fuel` rounds. -/
def delayTimer (fuel : Nat) (ms : BitVec 32) : TimerProc Unit := do
  clearTimer .cr1 timerCr1Cen
  writeTimer .arr (if ms ≠ 0#32 then ms - 1#32 else 0#32)
  writeTimer .cnt 0#32
  writeTimer .egr timerEgrUg
  writeTimer .sr 0#32
  setTimer .cr1 timerCr1Cen
  iter pollUpdate fuel ()
  clearTimer .cr1 timerCr1Cen
  writeTimer .sr 0#32

/-! ## TIM2 -/

/-- The timer as an up-counter, which is what `CR1 = 0` leaves it. -/
structure Tim2 where
  cr1 : BitVec 32
  /-- `UIF` of `SR`. -/
  uif : Bool
  cnt : BitVec 32
  /-- How far the prescaler has counted. -/
  prescale : BitVec 16
  psc : BitVec 16
  /-- The prescaler in effect: `PSC` as of the last update event. -/
  pscActive : BitVec 16
  arr : BitVec 32
  /-- The reload value in effect. -/
  arrActive : BitVec 32
  /-- Cycles since the counter was enabled. -/
  elapsed : Nat
  /-- How many of them came up to the first update event. -/
  waited : Option Nat

namespace Tim2

/-- An update event. -/
def update (t : Tim2) : Tim2 :=
  { t with uif := true, cnt := 0#32, prescale := 0#16, pscActive := t.psc, arrActive := t.arr }

/-- The counter goes on, unless it is blocked. -/
def advance (t : Tim2) : Tim2 :=
  if t.arrActive = 0#32 then t
  else if t.cnt = t.arrActive then { t.update with waited := t.waited.or (some t.elapsed) }
  else { t with cnt := t.cnt + 1#32 }

/-- The prescaler goes on; the counter does when the prescaler has run through. -/
def count (t : Tim2) : Tim2 :=
  if t.prescale = t.pscActive then { t with prescale := 0#16 }.advance
  else { t with prescale := t.prescale + 1#16 }

def tick (t : Tim2) : Tim2 :=
  if t.cr1 &&& timerCr1Cen = 0#32 then t
  else { t with elapsed := t.elapsed + 1 }.count

def shown (t : Tim2) : Tim2Reg → BitVec 32
  | .cr1 => t.cr1
  | .sr => if t.uif then timerSrUif else 0#32
  | .egr => 0#32
  | .cnt => t.cnt
  | .psc => t.psc.setWidth 32
  | .arr => t.arr

/-- A register is written.  `SR` is cleared by writing zeros, and `ARR` is preloaded under
`ARPE`. -/
def put (t : Tim2) (r : Tim2Reg) (v : BitVec 32) : Tim2 :=
  match r with
  | .cr1 =>
      -- The record starts when the counter is enabled.
      let starts := t.cr1 &&& timerCr1Cen = 0#32 ∧ v &&& timerCr1Cen ≠ 0#32
      { t with
        cr1 := v
        elapsed := if starts then 0 else t.elapsed
        waited := if starts then none else t.waited }
  | .sr => { t with uif := t.uif && decide (v &&& timerSrUif ≠ 0#32) }
  | .egr => if v &&& timerEgrUg = 0#32 then t else t.update
  | .cnt => { t with cnt := v }
  | .psc => { t with psc := v.setWidth 16 }
  | .arr =>
      { t with arr := v, arrActive := if t.cr1 &&& timerCr1Arpe = 0#32 then v else t.arrActive }

end Tim2

/-! ## The environment -/

structure Board where
  clock : ClockState
  tim : Tim2

def Board.tick (s : Board) : Board := { s with tim := s.tim.tick }

def Board.put (s : Board) (r : Tim2Reg) (v : BitVec 32) : Board := { s with tim := s.tim.put r v }

/-- Of `SR` only `UIF` is known. -/
def boardHardware : Env TimerEvent TimerEvent.Response Board where
  step s e r s' :=
    match e, r with
    | .rcc e, r => (clockHardware anyClock).step s.clock e r s'.clock ∧ s'.tim = s.tim
    | .read .sr, (v : BitVec 32) =>
        s' = s.tick ∧ v &&& timerSrUif = (if s'.tim.uif then timerSrUif else 0#32)
    | .read r, (v : BitVec 32) => v = s.tim.shown r ∧ s' = s
    | .write r v, _ => s' = s.put r v

/-- One cycle of the timer clock. -/
def Cycle (s s' : Board) : Prop := s' = s.tick

def timerHardware : Env TimerEvent TimerEvent.Response Board := boardHardware.amid Cycle

/-- Every access is answered. -/
theorem timerHardware_live (s : Board) (e : TimerEvent) :
    ∃ r s', timerHardware.step s e r s' := by
  cases e with
  | rcc e =>
      have hclock := obliging_allowed anyClock s.clock e
      exact ⟨_, { s with clock := (obliging s.clock e).2 }, Env.amid_of_step ⟨hclock, rfl⟩⟩
  | read r =>
      cases r with
      | sr =>
          refine ⟨s.tick.tim.shown .sr, s.tick, Env.amid_of_step ⟨rfl, ?_⟩⟩
          show (if s.tick.tim.uif then timerSrUif else 0#32) &&& timerSrUif = _
          split
          · rfl
          · rfl
      | _ => exact ⟨_, s, Env.amid_of_step ⟨rfl, rfl⟩⟩
  | write r v => exact ⟨(), s.put r v, Env.amid_of_step rfl⟩

section Accesses

variable {D : Board → Prop} {g : Unit} {s s₁ : Board} {r : Tim2Reg}

theorem Board.clock_of_cycles (h : ReflTransGen Cycle s s₁) : s₁.clock = s.clock := by
  have hstable : Stable Cycle fun s' => s'.clock = s.clock := by
    rintro s' _ rfl hclock
    exact hclock
  exact hstable.turns h rfl

/-- While the counter is disabled no cycle changes anything. -/
theorem stable_disabled (hcen : s.tim.cr1 &&& timerCr1Cen = 0#32) :
    Stable Cycle fun s' => s' = s := by
  rintro s' _ rfl rfl
  unfold Board.tick Tim2.tick
  rw [if_pos hcen]

/-- On the board the functions of `rcc.c` do what they do to the clocks. -/
theorem wp_callRcc {α : Type} {p : RccProc α} {Q : α → Unit → ClockState → Prop}
    (h : p.wp (clockHardware anyClock) (fun _ => False) Q g s.clock) :
    (callRcc p).wp timerHardware D (fun a g' s' => Q a g' s'.clock) g s := by
  refine wp_embed_view Board.clock (fun _ _ _ _ _ => trivial) ?_ (fun _ hcut => hcut.elim) h
  rintro s e r s' ⟨s₁, hcycles, hstep, -⟩
  rw [← Board.clock_of_cycles hcycles]
  exact hstep

theorem wp_writeTimer {v : BitVec 32} {Q : Unit → Unit → Board → Prop}
    (h : ∀ s₁, ReflTransGen Cycle s s₁ → Q () g (s₁.put r v)) :
    (writeTimer r v).wp timerHardware D Q g s := by
  refine ⟨fun _ _ => trivial, ?_⟩
  rintro _ s' ⟨s₁, hcycles, hwrite⟩
  have hput : s' = s₁.put r v := hwrite
  rw [hput]
  exact h s₁ hcycles

theorem wp_readCr1 {Q : BitVec 32 → Unit → Board → Prop}
    (h : ∀ s₁, ReflTransGen Cycle s s₁ → Q s₁.tim.cr1 g s₁) :
    (readTimer .cr1).wp timerHardware D Q g s := by
  refine ⟨fun _ _ => trivial, ?_⟩
  rintro v s' ⟨s₁, hcycles, hv, hs⟩
  rw [hv, hs]
  exact h s₁ hcycles

theorem wp_readSr {Q : BitVec 32 → Unit → Board → Prop}
    (h : ∀ s₁ (v : BitVec 32), ReflTransGen Cycle s s₁ →
      (v &&& timerSrUif = 0#32 ↔ s₁.tick.tim.uif = false) → Q v g s₁.tick) :
    (readTimer .sr).wp timerHardware D Q g s := by
  refine ⟨fun _ _ => trivial, ?_⟩
  rintro v s' ⟨s₁, hcycles, hs, hv⟩
  rw [hs] at hv ⊢
  refine h s₁ v hcycles ?_
  rw [hv]
  cases s₁.tick.tim.uif with
  | false => decide
  | true => decide

/-! ### With the counter disabled -/

theorem wp_writeTimer_idle {v : BitVec 32} {Q : Unit → Unit → Board → Prop}
    (hcen : s.tim.cr1 &&& timerCr1Cen = 0#32) (h : Q () g (s.put r v)) :
    (writeTimer r v).wp timerHardware D Q g s := by
  refine wp_writeTimer fun s₁ hcycles => ?_
  rw [(stable_disabled hcen).turns hcycles rfl]
  exact h

theorem wp_setCr1_idle {mask : BitVec 32} {Q : Unit → Unit → Board → Prop}
    (hcen : s.tim.cr1 &&& timerCr1Cen = 0#32) (h : Q () g (s.put .cr1 (s.tim.cr1 ||| mask))) :
    (setTimer .cr1 mask).wp timerHardware D Q g s := by
  refine wp_bind.2 (wp_readCr1 fun s₁ hcycles => ?_)
  rw [(stable_disabled hcen).turns hcycles rfl]
  exact wp_writeTimer_idle hcen h

/-- Whatever the cycles in between do, `CR1` is written back with the bits cleared. -/
theorem wp_clearCr1 {mask : BitVec 32} {I : Board → Prop} {Q : Unit → Unit → Board → Prop}
    (hstable : Stable Cycle I) (hs : I s)
    (h : ∀ s₁ s₂, I s₁ → I s₂ → Q () g (s₂.put .cr1 (s₁.tim.cr1 &&& ~~~mask))) :
    (clearTimer .cr1 mask).wp timerHardware D Q g s := by
  refine wp_bind.2 (wp_readCr1 fun s₁ hcycles₁ => ?_)
  have hI₁ := hstable.turns hcycles₁ hs
  refine wp_writeTimer fun s₂ hcycles₂ => ?_
  exact h s₁ s₂ hI₁ (hstable.turns hcycles₂ hI₁)

end Accesses

/-! ## `init_timer` -/

/-- `timer_clk`, and what is written to `PSC`, for the clocks that the registers describe. -/
def ClockRegs.timerClk (ρ : ClockRegs) (source : BitVec 2) : BitVec 32 :=
  if 1#8 < ρ.dividers.apb1Prescaler then (ρ.report source 0#32).apb1Freq * 2#32
  else (ρ.report source 0#32).apb1Freq

def ClockRegs.timerPsc (ρ : ClockRegs) (source : BitVec 2) : BitVec 16 :=
  (ρ.timerClk source / 1000#32 - 1#32).setWidth 16

/-- The timer as `init_timer` and every delay leave it, with the prescaler `p`. -/
structure Tim2.Ready (p : BitVec 16) (t : Tim2) : Prop where
  cr1 : t.cr1 = timerCr1Arpe
  psc : t.psc = p
  pscActive : t.pscActive = p

theorem Tim2.Ready.cen {p : BitVec 16} {t : Tim2} (h : t.Ready p) :
    t.cr1 &&& timerCr1Cen = 0#32 := by
  rw [h.cr1]
  decide

theorem Board.put_egr (s : Board) :
    s.put .egr timerEgrUg = { s with tim := s.tim.update } := by
  unfold put Tim2.put
  exact congrArg (Board.mk s.clock) (if_neg (by decide))

section Init

variable {D : Board → Prop} {g : Unit} {s : Board}

/-- The clock in use stays the one selected. -/
theorem Drift.settled {c c' : ClockState} (h : Drift c c') (hsettled : c.sws = c.regs.sw) :
    c'.sws = c.regs.sw := by
  rcases h.sws with hsws | hsws
  · exact hsws.trans hsettled
  · exact hsws

theorem wp_initTimer (hsettled : s.clock.sws = s.clock.regs.sw) :
    initTimer.wp timerHardware D
      (fun _ _ s' => s'.tim.Ready (s.clock.regs.timerPsc s.clock.regs.sw)) g s := by
  refine wp_seq (wp_callRcc (wp_getClockFrequencies (allowed_anyClock s.clock))) ?_
  rintro freq _ s₁ ⟨c, hdrift, hdrift₁, rfl⟩
  refine wp_seq (wp_callRcc (wp_getRccClockDividers (allowed_anyClock s₁.clock))) ?_
  rintro _ _ s₂ ⟨-, rfl⟩
  rw [hdrift₁.regs, hdrift.regs, hdrift.settled hsettled]
  refine wp_bind.2 (wp_writeTimer fun s₃ _ => ?_)
  -- From here on the counter is disabled.
  have hcen : 0#32 &&& timerCr1Cen = 0#32 := by decide
  refine wp_bind.2 (wp_writeTimer_idle hcen ?_)
  refine wp_bind.2 (wp_setCr1_idle hcen ?_)
  have harpe : (0#32 ||| timerCr1Arpe) &&& timerCr1Cen = 0#32 := by decide
  refine wp_writeTimer_idle harpe ?_
  rw [Board.put_egr]
  exact ⟨BitVec.zero_or, rfl, rfl⟩

end Init

end Core
end SdioFat32
