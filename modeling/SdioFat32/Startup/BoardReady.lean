import SdioFat32.Startup.InitBoard

/-!
# BoardReady — what `init_board` leaves behind

Whatever the registers held and however the oscillators behave, the board ends up in one of three
ways: at 168 MHz, at 16 MHz, or with a LED that says that there is no clock.

* `RunsAt` — the clocks, as the timer and the serial line are set up for them;
* `wp_initBoard` — every access on the way is to a peripheral that has its clock.
-/

namespace SdioFat32
namespace Startup

open Effects Cells Proc SdioFat32.Core Logger
open Driver (hasFlag)

/-! ## The clocks -/

/-- The system clock in use is the one selected, and these are its figures. -/
structure RunsAt (c : ClockState) (sysclk : Nat) (apb2 : BitVec 32) (psc : BitVec 16) : Prop where
  settled : c.sws = c.regs.sw
  sysclk : c.regs.sysclk = sysclk
  apb2 : (c.regs.report c.regs.sw 0#32).apb2Freq = apb2
  psc : c.regs.timerPsc c.regs.sw = psc

/-- With the PLL, or on the internal oscillator without it. -/
def ClocksUp (c : ClockState) : Prop :=
  RunsAt c 168000000 84000000#32 18463#16 ∨ RunsAt c 16000000 16000000#32 15999#16

theorem RunsAt.quiet {c c' : ClockState} {sysclk : Nat} {apb2 : BitVec 32} {psc : BitVec 16}
    (h : RunsAt c sysclk apb2 psc) (hquiet : Quiet c c') : RunsAt c' sysclk apb2 psc := by
  obtain ⟨hregs, hsws⟩ := hquiet
  refine ⟨?_, ?_, ?_, ?_⟩
  · rw [hregs]
    rcases hsws with heq | heq
    · exact heq.trans h.settled
    · exact heq
  · rw [hregs]
    exact h.sysclk
  · rw [hregs]
    exact h.apb2
  · rw [hregs]
    exact h.psc

theorem ClocksUp.quiet {c c' : ClockState} (h : ClocksUp c) (hquiet : Quiet c c') :
    ClocksUp c' := by
  rcases h with hfast | hslow
  · exact Or.inl (hfast.quiet hquiet)
  · exact Or.inr (hslow.quiet hquiet)

theorem pllHse_inRange : pllHse.InRange :=
  ⟨by decide, by decide, by decide, by decide, by decide, Or.inr rfl⟩

theorem pllHsi_inRange : pllHsi.InRange :=
  ⟨by decide, by decide, by decide, by decide, by decide, Or.inl rfl⟩

/-- Both PLL setups come to the same. -/
theorem runsAt_of_clocksSet {pll : RccPllConfig} {c : ClockState} (hin : pll.InRange)
    (hvco : pll.vco = 336000000) (hpllp : pll.pllp = 0#32)
    (h : ClocksSet pll dividedBuses c) : RunsAt c 168000000 84000000#32 18463#16 := by
  have houtput : pll.output = 168000000 := by
    rw [RccPllConfig.output_eq, hvco, hpllp]
    rfl
  have hreport : c.regs.report c.regs.sw 0#32 = c.regs.report pllSelected 0#32 := by rw [h.sw]
  obtain ⟨-, hhclk, happ1, happ2⟩ := h.report hin (by omega) hreport
  rw [if_pos (by decide), houtput] at hhclk
  rw [hhclk] at happ1 happ2
  have hdividers : c.regs.dividers.apb1Prescaler = 5#8 := by
    rw [h.dividers]
    rfl
  have happ1' : (c.regs.report c.regs.sw 0#32).apb1Freq = 42000000#32 := BitVec.eq_of_toNat_eq happ1
  refine ⟨h.sws.trans h.sw.symm, ?_, BitVec.eq_of_toNat_eq happ2, ?_⟩
  · obtain ⟨v, hv⟩ := h.pllcfgr
    unfold ClockRegs.sysclk
    rw [h.sw, ← houtput, ← RccPllConfig.pllFreq_encode hin hv]
    rfl
  · unfold ClockRegs.timerPsc ClockRegs.timerClk
    rw [hdividers, happ1']
    decide

/-- The internal oscillator as the system clock, with undivided buses. -/
structure HsiSet (c : ClockState) : Prop where
  sw : c.regs.sw = 0#2
  sws : c.sws = 0#2
  cfgr : ∃ ρ : ClockRegs, c.regs.cfgr = (ρ.divide plainBuses).cfgr

theorem runsAt_of_hsiSet {c : ClockState} (h : HsiSet c) :
    RunsAt c 16000000 16000000#32 15999#16 := by
  obtain ⟨ρ, hρ⟩ := h.cfgr
  have hfits := RccBusConfig.fits_of .notDiv .notDiv .notDiv rtcDiv25
  have hahb : field c.regs.cfgr 4 4 = 0#32 := by
    rw [hρ]
    exact ClockRegs.field_ahb_divide hfits
  have hapb1 : field c.regs.cfgr 10 3 = 0#32 := by
    rw [hρ]
    exact ClockRegs.field_apb1_divide hfits
  have hapb2 : field c.regs.cfgr 13 3 = 0#32 := by
    rw [hρ]
    exact ClockRegs.field_apb2_divide hfits
  have hdividers : c.regs.dividers.apb1Prescaler = 0#8 := by
    unfold ClockRegs.dividers
    rw [hapb1]
    rfl
  refine ⟨h.sws.trans h.sw.symm, ?_, ?_, ?_⟩
  · unfold ClockRegs.sysclk
    rw [h.sw]
    rfl
  · rw [h.sw]
    unfold ClockRegs.report
    rw [hahb, hapb2]
    rfl
  · unfold ClockRegs.timerPsc ClockRegs.timerClk
    rw [hdividers, h.sw]
    have hfreq : c.regs.reportSysclk 0#2 0#32 = rccHsiFreq := rfl
    unfold ClockRegs.report
    rw [hahb, hapb1, hapb2, hfreq]
    decide

section Clocks

variable {D : ClockState → Prop} {g : Unit} {c : ClockState}

theorem wp_switchToHsiRcc_selects :
    switchToHsiRcc.wp (clockHardware anyClock) D
      (fun status _ c' => status = 0 → c'.regs.sw = 0#2 ∧ c'.sws = 0#2) g c := by
  refine wp_seq (wp_quiet emits_startOscillator (allowed_anyClock c)) ?_
  rintro status _ c₁ _
  refine wp_guard (fun hne hzero => absurd hzero hne) fun _ => ?_
  have hselect : SelectAllowed anyClock rccHsi c₁.regs c₁.sws :=
    ⟨fun _ _ => trivial, fun _ _ => trivial⟩
  refine wp_seq (wp_selectSysClock (Or.inl rfl) (allowed_anyClock c₁) hselect) ?_
  intro status _ c₂ hselected
  refine wp_guard (fun _ hzero => absurd hzero (by decide)) fun hdone => ?_
  have hzero : status = 0 := not_not.1 hdone
  obtain ⟨hne, _⟩ | ⟨hsel, hsws⟩ := hselected
  · exact absurd hzero hne
  have hsw₂ : c₂.regs.sw = 0#2 := by
    rw [hsel.regs]
    exact ClockRegs.sw_select _ (by decide)
  have hsws₂ : c₂.sws = 0#2 := hsws hzero
  have hquiet : ∀ {c₃}, Quiet c₂ c₃ → c₃.regs.sw = 0#2 ∧ c₃.sws = 0#2 := by
    intro c₃ h
    refine ⟨by rw [h.regs]; exact hsw₂, ?_⟩
    rcases h.sws with heq | heq
    · exact heq.trans hsws₂
    · exact heq.trans hsw₂
  -- Stopping the others writes to `CR` alone.
  refine wp_seq (wp_quiet emits_stopOscillator (allowed_anyClock c₂)) ?_
  rintro _ _ c₃ ⟨hquiet₃, _⟩
  refine wp_seq (wp_quiet emits_stopOscillator (allowed_anyClock c₃)) ?_
  rintro _ _ c₄ ⟨hquiet₄, _⟩
  exact fun _ => hquiet (hquiet₃.trans hquiet₄)

theorem wp_setup_hsiSet :
    (setupSystemConfigRcc
      (some { source := rccHsi, pllConfig := none, busConfig := some plainBuses })).wp
      (clockHardware anyClock) D (fun status _ c' => status = 0 → HsiSet c') g c := by
  refine wp_setupSystemConfigRcc (Q := fun status c' => status = 0 → HsiSet c')
    (allowed_anyClock c) fun c₀ _ _ _ => ?_
  refine wp_mono (wp_switchToHsiRcc_selects (c := c₀)) ?_
  rintro status _ c₁ hselected
  refine ⟨fun hne hzero => absurd hzero hne, fun hzero => ?_⟩
  obtain ⟨hsw, hsws⟩ := hselected hzero
  refine wp_mono (wp_setBusDividersRcc (allowed_anyClock c₁) fun _ _ _ _ _ _ => trivial) ?_
  rintro _ _ c₂ hdivided _
  refine ⟨?_, ?_, c₁.regs, by rw [hdivided.regs]⟩
  · rw [hdivided.regs, hdivided.sw, hsw]
  · rcases hdivided.sws with heq | heq
    · exact heq.trans hsws
    · exact heq.trans hsw

theorem wp_clockLadder :
    clockLadder.wp (clockHardware anyClock) D
      (fun status _ c' => status = 0 → ClocksUp c') g c := by
  refine wp_seq wp_setup_clocksSet ?_
  intro status _ c₁ hfirst
  split
  swap
  · exact fun hzero => Or.inl (runsAt_of_clocksSet pllHse_inRange (by decide) rfl (hfirst hzero))
  refine wp_seq wp_setup_clocksSet ?_
  intro status _ c₂ hsecond
  split
  swap
  · exact fun hzero => Or.inl (runsAt_of_clocksSet pllHsi_inRange (by decide) rfl (hsecond hzero))
  refine wp_mono wp_setup_hsiSet ?_
  exact fun status _ c₃ hthird hzero => Or.inr (runsAt_of_hsiSet (hthird hzero))

end Clocks

/-! ## The RCC with its enable registers -/

section Rcc

variable {D : ClockState × Enables → Prop} {α : Type} {c : ClockState} {en : Enables}

/-- What is shown of the clocks. -/
theorem wp_rccUnit {p : RccProc α} {Q : α → Unit → ClockState → Prop} {g : Unit}
    (h : p.wp (clockHardware anyClock) (fun _ => True) Q g c) :
    p.wp rccUnit (fun _ => True) (fun a g' x => Q a g' x.1) g (c, en) := by
  have hshown : Shown (clockHardware anyClock) rccUnit Prod.fst (fun _ => True) fun _ => True :=
    ⟨fun _ _ _ _ _ => trivial, fun _ _ _ _ _ _ hstep => ⟨hstep.1, trivial⟩⟩
  have hp : p.Emits (fun _ => True) True := fun g => (p g).emits_any
  refine wp_mono (Proc.wp_view hshown (fun _ _ _ => trivial) hp trivial h) ?_
  exact fun _ _ _ hpost => hpost.1

/-- An enable register is written, and the clocks go on. -/
theorem wp_writeEnr {bus : RccBus} {v : BitVec 32} :
    (writeReg bus.enr v).wp rccUnit D
      (fun _ _ x => Quiet c x.1 ∧ x.2 = Function.update en bus v) () (c, en) := by
  refine wp_perform.2 ⟨trivial, ?_⟩
  rintro _ x ⟨hclock, henables⟩
  have hquiet : QuietEvent (.write bus.enr v) := by cases bus <;> rfl
  refine ⟨(hquiet.quiet hclock).1, ?_⟩
  cases bus <;> exact henables

theorem wp_setEnr {bus : RccBus} {mask : BitVec 32} :
    (setBits bus.enr mask).wp rccUnit D
      (fun _ _ x => Quiet c x.1 ∧ x.2 = Function.update en bus (en bus ||| mask)) () (c, en) := by
  refine wp_bind.2 (wp_perform.2 ⟨trivial, ?_⟩)
  rintro (v : BitVec 32) ⟨c₁, en₁⟩ ⟨hclock, henables⟩
  have hread : v = en bus ∧ en₁ = en := by
    cases bus <;> exact ⟨henables.1 _ rfl, henables.2⟩
  obtain ⟨rfl, rfl⟩ := hread
  have hquiet : QuietEvent (.read bus.enr) := trivial
  refine wp_mono wp_writeEnr ?_
  rintro _ _ x ⟨hquiet', hwritten⟩
  exact ⟨(hquiet.quiet hclock).1.trans hquiet', hwritten⟩

/-- The enable registers as `init_rcc` leaves them. -/
def initialEnables : Enables
  | .ahb1 => peripheralConf.ahb1
  | .ahb2 => peripheralConf.ahb2
  | .ahb3 => peripheralConf.ahb3
  | .apb1 => peripheralConf.apb1
  | .apb2 => peripheralConf.apb2

theorem wp_enableGpioClockRcc :
    (enableGpioClockRcc peripheralConf).wp rccUnit D
      (fun _ _ x => Quiet c x.1 ∧ x.2 = initialEnables) () (c, en) := by
  have hwrite : ∀ bus v c en, (writeReg (RccBus.enr bus) v).wp rccUnit D _ () (c, en) :=
    fun bus v c en => wp_writeEnr
  refine wp_seq (hwrite .apb1 _ c en) ?_
  rintro _ _ ⟨c₁, en₁⟩ ⟨hquiet₁, rfl⟩
  refine wp_seq (hwrite .apb2 _ c₁ _) ?_
  rintro _ _ ⟨c₂, en₂⟩ ⟨hquiet₂, rfl⟩
  refine wp_seq (hwrite .ahb1 _ c₂ _) ?_
  rintro _ _ ⟨c₃, en₃⟩ ⟨hquiet₃, rfl⟩
  refine wp_seq (hwrite .ahb2 _ c₃ _) ?_
  rintro _ _ ⟨c₄, en₄⟩ ⟨hquiet₄, rfl⟩
  refine wp_mono (hwrite .ahb3 _ c₄ _) ?_
  rintro _ _ ⟨c₅, en₅⟩ ⟨hquiet₅, rfl⟩
  refine ⟨(((hquiet₁.trans hquiet₂).trans hquiet₃).trans hquiet₄).trans hquiet₅, ?_⟩
  -- All five were written.
  funext bus
  cases bus <;> rfl

theorem wp_initRcc :
    initRcc.wp rccUnit (fun _ => True)
      (fun status _ x => (status = 0 → ClocksUp x.1) ∧ x.2 = initialEnables) () (c, en) := by
  refine wp_seq (wp_rccUnit wp_clockLadder) ?_
  rintro status _ ⟨c₁, en₁⟩ hup
  refine wp_seq wp_enableGpioClockRcc ?_
  rintro _ _ x ⟨hquiet, henables⟩
  exact ⟨fun hzero => (hup hzero).quiet hquiet, henables⟩

end Rcc

/-! ## What the drivers access -/

theorem emits_getClockFrequencies (freq : RccFrequencies) :
    (getClockFrequencies freq).Emits ReadEvent False := by
  have hread : ∀ r, (readReg r).Emits ReadEvent False := fun r => emits_perform trivial
  have hpll : readPllFreq.Emits ReadEvent False := by
    refine (hread _).bind fun _ => (hread _).bind fun _ => ?_
    exact (hread _).bind fun _ => (hread _).bind fun _ => emits_pure _
  have hsysclk : ∀ source unset, (readSysclk source unset).Emits ReadEvent False :=
    fun source unset => emits_ite (emits_pure _) (emits_ite (emits_pure _)
      (emits_ite hpll (emits_pure _)))
  refine (hread _).bind fun _ => (hsysclk _ _).bind fun _ => (hread _).bind fun _ => ?_
  exact (hread _).bind fun _ => (hread _).bind fun _ => emits_pure _

theorem emits_getRccClockDividers : getRccClockDividers.Emits ReadEvent False := by
  have hread : ∀ r, (readReg r).Emits ReadEvent False := fun r => emits_perform trivial
  refine (hread _).bind fun _ => (hread _).bind fun _ => ?_
  exact (hread _).bind fun _ => (hread _).bind fun _ => emits_pure _

/-- The timer and its clock are accessed, and the RCC is only read. -/
def ReadsRcc : TimerEvent → Prop
  | .rcc e => ReadEvent e
  | _ => True

theorem emits_initTimer : initTimer.Emits ReadsRcc False := by
  have hrcc : ∀ {α : Type} {p : RccProc α}, p.Emits ReadEvent False →
      (callRcc p).Emits ReadsRcc False := fun hp g => (hp g).embed fun _ h => h
  have htimer : ∀ r v, (writeTimer r v).Emits ReadsRcc False := fun r v => emits_perform trivial
  refine (hrcc (emits_getClockFrequencies _)).bind fun _ => ?_
  refine (hrcc emits_getRccClockDividers).bind fun _ => ?_
  refine (htimer _ _).bind fun _ => (htimer _ _).bind fun _ => ?_
  exact ((emits_perform trivial).bind fun _ => htimer _ _).bind fun _ => htimer _ _

/-- An access to one port. -/
def OnPort (gpiox : GpioPort) : GpioEvent → Prop
  | .read port _ => port = gpiox
  | .write port _ _ => port = gpiox

theorem emits_readGpio (gpiox : GpioPort) (r : GpioReg) :
    (readGpio gpiox r).Emits (OnPort gpiox) False :=
  emits_perform (show OnPort gpiox (.read gpiox r) from rfl)

theorem emits_writeGpio (gpiox : GpioPort) (r : GpioReg) (v : BitVec 32) :
    (writeGpio gpiox r v).Emits (OnPort gpiox) False :=
  emits_perform (show OnPort gpiox (.write gpiox r v) from rfl)

theorem emits_resetGpioPort (gpiox : GpioPort) (pin : BitVec 16) :
    (resetGpioPort gpiox pin).Emits (OnPort gpiox) False := by
  have hclear : ∀ r mask, (clearGpio gpiox r mask).Emits (OnPort gpiox) False :=
    fun r mask => (emits_readGpio gpiox r).bind fun _ => emits_writeGpio gpiox r _
  refine (hclear _ _).bind fun _ => (hclear _ _).bind fun _ => (hclear _ _).bind fun _ => ?_
  exact (hclear _ _).bind fun _ => emits_ite (hclear _ _) (hclear _ _)

theorem emits_setGpioConf {config : GpioPinConfig} {gpiox : GpioPort}
    (hport : config.gpiox = some gpiox) :
    (setGpioConf (some config)).Emits (OnPort gpiox) False := by
  have hset : ∀ r mask, (setGpio gpiox r mask).Emits (OnPort gpiox) False :=
    fun r mask => (emits_readGpio gpiox r).bind fun _ => emits_writeGpio gpiox r _
  unfold setGpioConf
  simp only [hport]
  refine (emits_resetGpioPort gpiox _).bind fun _ => (hset _ _).bind fun _ => ?_
  refine (hset _ _).bind fun _ => (hset _ _).bind fun _ => (hset _ _).bind fun _ => ?_
  exact emits_ite (hset _ _) (hset _ _)

theorem emits_ledLoop (left : Nat) (pin : Nat) :
    (ledLoop pin left).Emits (OnPort .gpioe) False := by
  induction left generalizing pin with
  | zero => exact emits_pure _
  | succ left ih =>
      refine (emits_setGpioConf rfl).bind fun _ => ?_
      exact (emits_writeGpio .gpioe .bsrr _).bind fun _ => ih (pin + 1)

/-! ## The drivers on the microcontroller -/

section Calls

variable {G α : Type} {g : G} {s : McuState}

theorem wp_onRcc {p : RccProc α} {Q : α → ClockState × Enables → Prop}
    (h : p.wp rccUnit (fun _ => True) (fun a _ x => Q a x) () (s.clock, s.enables)) :
    (onRcc p).wp mcu (fun _ => True) (fun a g' s' => g' = g ∧
      ∃ x, Q a x ∧ s' = { s with clock := x.1, enables := x.2 }) g s := by
  let place : ClockState × Enables → McuState := fun x =>
    { s with clock := x.1, enables := x.2 }
  have hp : p.Emits (fun _ => True) True := fun g => (p g).emits_any
  have hreq : ∀ x e, True → rccUnit.req x e → mcu.req (place x) (.rcc e) :=
    fun _ _ _ _ => ⟨trivial, trivial⟩
  have hstep : ∀ x e r s', True → mcu.step (place x) (.rcc e) r s' →
      ∃ x', rccUnit.step x e r x' ∧ s' = place x' := fun _ _ _ _ _ hstep => hstep
  exact wp_aside_place hreq hstep (fun _ _ _ => trivial) hp h

theorem wp_onPorts {p : GpioProc α} {gpiox : GpioPort} {Q : α → GpioPorts → Prop}
    (hawake : s.Awake .ahb1 (gpioBit gpiox)) (hp : p.Emits (OnPort gpiox) False)
    (h : p.wp gpioPorts (fun _ => True) (fun a _ x => Q a x) () s.ports) :
    (onPorts p).wp mcu (fun _ => True) (fun a g' s' => g' = g ∧
      ∃ ports, Q a ports ∧ s' = { s with ports := ports }) g s := by
  let place : GpioPorts → McuState := fun x => { s with ports := x }
  have hreq : ∀ x e, OnPort gpiox e → gpioPorts.req x e → mcu.req (place x) (.gpio e) := by
    intro x e he _
    cases e with
    | read port r =>
        have heq : port = gpiox := he
        subst heq
        exact ⟨hawake, trivial⟩
    | write port r v =>
        have heq : port = gpiox := he
        subst heq
        exact ⟨hawake, trivial⟩
  have hstep : ∀ x e r s', OnPort gpiox e → mcu.step (place x) (.gpio e) r s' →
      ∃ x', gpioPorts.step x e r x' ∧ s' = place x' := fun _ _ _ _ _ hstep => hstep
  exact wp_aside_place hreq hstep (fun _ hcut _ => hcut.elim) hp h

theorem wp_onTimer {p : TimerProc α} {Q : α → Board → Prop}
    (hawake : s.Awake .apb1 apb1enrTim2en) (hp : p.Emits ReadsRcc False)
    (h : p.wp timerHardware (fun _ => True) (fun a _ b => Q a b) () ⟨s.clock, s.tim⟩) :
    (onTimer p).wp mcu (fun _ => True) (fun a g' s' => g' = g ∧
      ∃ b, Q a b ∧ s' = { s with clock := b.clock, tim := b.tim }) g s := by
  let place : Board → McuState := fun b => { s with clock := b.clock, tim := b.tim }
  have hreq : ∀ b e, ReadsRcc e → timerHardware.req b e → mcu.req (place b) (timerAccess e) := by
    intro b e _ _
    cases e with
    | rcc e => exact ⟨trivial, trivial⟩
    | read r => exact ⟨hawake, trivial⟩
    | write r v => exact ⟨hawake, trivial⟩
  have hstep : ∀ b e r s', ReadsRcc e → mcu.step (place b) (timerAccess e) r s' →
      ∃ b', timerHardware.step b e (timerAnswer e r) b' ∧ s' = place b' := by
    intro b e r s' he hstep
    cases e with
    | rcc e =>
        obtain ⟨⟨c, en⟩, ⟨hclock, henables⟩, rfl⟩ := hstep
        have hkept : en = s.enables := by
          cases e with
          | read reg => exact henables.2
          | write reg v => exact he.elim
          | indeterminate => exact henables
        subst hkept
        exact ⟨⟨c, b.tim⟩, Env.amid_of_step ⟨hclock, rfl⟩, rfl⟩
    | read reg => exact hstep
    | write reg v => exact hstep
  exact wp_aside_place hreq hstep (fun _ hcut _ => hcut.elim) hp h

end Calls

/-! ## The serial line and its pins -/

/-- The line beside the ports, as `setup_uart` deals with them: its pins are on port A. -/
def lineOnPorts : Env UsartEvent UsartEvent.Response (UartState × GpioPorts) where
  req x e :=
    transmitter.req x.1 e ∧
      match e with
      | .setGpioConf config => ∀ c ∈ config, c.gpiox = some .gpioa ∧ c.pin.toNat < 16
      | _ => True
  step x e r x' :=
    transmitter.step x.1 e r x'.1 ∧
      match e with
      | .setGpioConf config =>
          ∀ ps, PinsAre x.2 ps → PinsAre x'.2 ((GpioCall.setGpioConf config).effect ps)
      | _ => x'.2 = x.2

/-- Nothing but the line and the ports is different. -/
structure BesideLine (s s' : McuState) : Prop where
  clock : s'.clock = s.clock
  enables : s'.enables = s.enables
  resets : s'.resets = s.resets
  core : s'.core = s.core
  tim : s'.tim = s.tim

section Line

variable {g : Unit} {s : McuState}

/-- A pin of port A is set up as the call says, whatever the pins were. -/
theorem wp_setGpioConf_gpioa {config : Option GpioPinConfig}
    (hconfig : ∀ c ∈ config, c.gpiox = some .gpioa ∧ c.pin.toNat < 16)
    (hawake : s.Awake .ahb1 (gpioBit .gpioa)) :
    (onPorts (setGpioConf config)).wp mcu (fun _ => True) (fun _ _ s' =>
      ∃ ports, (∀ ps, PinsAre s.ports ps →
          PinsAre ports ((GpioCall.setGpioConf config).effect ps)) ∧
        s' = { s with ports := ports }) g s := by
  have hp : (setGpioConf config).Emits (OnPort .gpioa) False := by
    cases config with
    | none => exact emits_pure _
    | some c => exact emits_setGpioConf (hconfig c rfl).1
  have hvalid : (GpioCall.setGpioConf config).Valid := fun c hc => (hconfig c hc).2
  have hpins : (setGpioConf config).wp gpioPorts (fun _ => True) (fun _ _ ports =>
      ∀ ps : { ps // PinsAre s.ports ps },
        PinsAre ports ((GpioCall.setGpioConf config).effect ps.1)) () s.ports := by
    have : Nonempty { ps // PinsAre s.ports ps } :=
      ⟨fun gpiox i => (s.ports gpiox).pin i, fun _ _ _ => rfl⟩
    exact Prog.wp_all fun ps => wp_gpioCall (g := ()) hvalid ps.2
  refine wp_mono (wp_onPorts hawake hp hpins) ?_
  rintro _ _ _ ⟨rfl, ports, hports, rfl⟩
  exact ⟨ports, fun ps hps => hports ⟨ps, hps⟩, rfl⟩

theorem handles_usartHandler {s₀ : McuState} (hline : s₀.Awake .apb2 apb2enrUsart1en)
    (hport : s₀.Awake .ahb1 (gpioBit .gpioa)) :
    Handles lineOnPorts mcu (fun s => (s.uart, s.ports)) (fun _ s => BesideLine s₀ s)
      usartHandler := by
  intro e g s hrest hreq
  have hawake : ∀ {bus bit}, s₀.Awake bus bit → s.Awake bus bit := by
    intro bus bit h
    unfold McuState.Awake
    rw [hrest.enables, hrest.resets]
    exact h
  have hkept : ∀ {uart ports}, BesideLine s₀ { s with uart := uart, ports := ports } :=
    ⟨hrest.clock, hrest.enables, hrest.resets, hrest.core, hrest.tim⟩
  cases e with
  | setGpioConf config =>
      refine wp_mono (wp_setGpioConf_gpioa hreq.2 (hawake hport)) ?_
      rintro _ _ _ ⟨ports, hports, rfl⟩
      exact ⟨⟨⟨s.uart, .refl, rfl⟩, hports⟩, hkept⟩
  | dmaSend cfg buffer length => exact hreq.1.elim
  | _ =>
      refine wp_perform.2 ⟨⟨hawake hline, hreq.1⟩, ?_⟩
      rintro r _ ⟨uart, hstep, rfl⟩
      exact ⟨⟨hstep, rfl⟩, hkept⟩

/-- `setup_uart` does not set up a pin after the first access to `CR1`. -/
def NotPin : UsartEvent → Prop
  | .setGpioConf _ => False
  | _ => True

theorem emits_setupRegisters (cfg : UartConfig) (usartClk : BitVec 32) :
    (setupRegisters cfg usartClk).Emits NotPin False := by
  have hread : ∀ r, (readUsart r).Emits NotPin False := fun r => emits_perform trivial
  have hwrite : ∀ r v, (writeUsart r v).Emits NotPin False := fun r v => emits_perform trivial
  have hset : ∀ r mask, (setUsart r mask).Emits NotPin False :=
    fun r mask => (hread r).bind fun _ => hwrite r _
  have hchannel : ∀ mode flag channel, (setupChannel mode flag channel).Emits NotPin False :=
    fun mode flag channel =>
      emits_ite ((hset _ _).bind fun _ => emits_perform trivial) (emits_pure _)
  have henable : ∀ mode flag, (enableDirection mode flag).Emits NotPin False :=
    fun mode flag => emits_ite (hset _ _) (emits_pure _)
  refine (hread _).bind fun _ => (hwrite _ _).bind fun _ => (hwrite _ _).bind fun _ => ?_
  refine (hwrite _ _).bind fun _ => (hwrite _ _).bind fun _ => (hwrite _ _).bind fun _ => ?_
  refine (hchannel _ _ _).bind fun _ => (hchannel _ _ _).bind fun _ => ?_
  refine (henable _ _).bind fun _ => (henable _ _).bind fun _ => (hset _ _).bind fun _ => ?_
  exact (hread _).bind fun _ => (hread _).bind fun _ => emits_pure _

/-- The pins of `uart1_config`. -/
def uartCalls : List GpioCall :=
  [.setGpioConf uart1Config.txPort, .setGpioConf uart1Config.rxPort]

/-- A pin that is set up is on port A. -/
def PinOnPortA : UsartEvent → Prop
  | .setGpioConf config => ∀ c ∈ config, c.gpiox = some .gpioa ∧ c.pin.toNat < 16
  | _ => True

theorem emits_setupUart (usartClk : BitVec 32) :
    (setupUart (some uart1Config) usartClk).Emits PinOnPortA False := by
  refine (emits_assign _).bind fun _ => ?_
  refine (emits_perform (show PinOnPortA (.setGpioConf _) from ?_)).bind fun _ => ?_
  · rintro c ⟨⟩
    exact ⟨rfl, by decide⟩
  refine (emits_perform (show PinOnPortA (.setGpioConf _) from ?_)).bind fun _ => ?_
  · rintro c ⟨⟩
    exact ⟨rfl, by decide⟩
  refine (emits_setupRegisters _ _).mono fun e he => ?_
  cases e with
  | setGpioConf config => exact he.elim
  | _ => trivial

variable {x : UartState × GpioPorts} {usartClk : BitVec 32} {h : UartHandle}

theorem wp_setupUart_pins :
    (setupUart (some uart1Config) usartClk).wp lineOnPorts.lax (fun _ => True)
      (fun _ _ x' => ∀ ps, PinsAre x.2 ps → PinsAre x'.2 (uartCalls.foldl GpioCall.effect ps))
      h x := by
  refine wp_bind.2 (wp_assign.2 ?_)
  refine wp_bind.2 (wp_perform.2 ⟨trivial, ?_⟩)
  rintro _ x₁ ⟨_, hpins₁⟩
  refine wp_bind.2 (wp_perform.2 ⟨trivial, ?_⟩)
  rintro _ x₂ ⟨_, hpins₂⟩
  have hpins : ∀ ps, PinsAre x.2 ps → PinsAre x₂.2 (uartCalls.foldl GpioCall.effect ps) :=
    fun ps hps => hpins₂ _ (hpins₁ ps hps)
  refine wp_frame (emits_setupRegisters _ _) ?_ (fun _ hcut => hcut.elim) hpins
  rintro x₃ e hx₃ he
  refine ⟨trivial, ?_⟩
  rintro r x₄ ⟨_, hports⟩ ps hps
  have hsame : x₄.2 = x₃.2 := by
    cases e with
    | setGpioConf config => exact he.elim
    | _ => exact hports
  rw [hsame]
  exact hx₃ ps hps

theorem wp_setupUart_line :
    (setupUart (some uart1Config) usartClk).wp lineOnPorts (fun _ => True)
      (fun _ h' x' => LineReady (calculateUsartBrr usartClk 115200#32) 0x200C#32 h' x'.1 ∧
        ∀ ps, PinsAre x.2 ps → PinsAre x'.2 (uartCalls.foldl GpioCall.effect ps)) h x := by
  have hshown : Shown transmitter lineOnPorts Prod.fst PinOnPortA fun _ => True := by
    refine ⟨?_, fun _ _ _ _ _ _ hstep => ⟨hstep.1, trivial⟩⟩
    intro x e _ he hreq
    cases e with
    | setGpioConf config => exact ⟨hreq, he⟩
    | _ => exact ⟨hreq, trivial⟩
  have hsetup : (setupUart (some uart1Config) usartClk).wp transmitter (fun _ => True) _ h x.1 :=
    wp_setupUart
  have hline := Proc.wp_view hshown (fun _ _ _ => trivial) (emits_setupUart usartClk) trivial hsetup
  refine wp_mono (wp_and_lax hline wp_setupUart_pins) ?_
  rintro _ h' x' ⟨⟨⟨hmode, s₁, _, hrest⟩, _⟩, hpins⟩
  refine ⟨⟨?_, hrest.idle, hrest.brr, hrest.cr1⟩, hpins⟩
  rw [hmode]
  decide

end Line

/-! ## `init_board` -/

section Board

variable {g : McuGlobals} {s : McuState}

theorem wp_initTimer_clock {D : Board → Prop} {u : Unit} {b : Board} :
    initTimer.wp timerHardware D (fun _ _ b' => Quiet b.clock b'.clock) u b := by
  refine wp_frame emits_initTimer ?_ (fun _ hcut => hcut.elim) (Drift.refl b.clock).quiet
  intro b₁ e hquiet he
  refine ⟨fun _ _ => by cases e <;> trivial, ?_⟩
  rintro r b₂ ⟨b₃, hcycles, hstep⟩
  have hclock := Board.clock_of_cycles hcycles
  have hsame : b₂.clock = b₃.clock → Quiet b.clock b₂.clock := by
    intro heq
    rw [heq, hclock]
    exact hquiet
  cases e with
  | rcc e =>
      have hdrift := ReadEvent.drift he hstep.1
      rw [hclock] at hdrift
      exact hquiet.trans hdrift.quiet
  | read reg =>
      cases reg with
      | sr =>
          have hticked : b₂ = b₃.tick := hstep.1
          exact hsame (by rw [hticked]; rfl)
      | _ => exact hsame (congrArg Board.clock hstep.2)
  | write reg v =>
      have hput : b₂ = b₃.put reg v := hstep
      exact hsame (by rw [hput]; rfl)

theorem wp_rccUnit_reads {α : Type} {p : RccProc α} {D : ClockState × Enables → Prop}
    {x : ClockState × Enables} {u : Unit} (hp : p.Emits ReadEvent False) :
    p.wp rccUnit D (fun _ _ x' => x'.2 = x.2) u x := by
  refine wp_frame (I := fun x' : ClockState × Enables => x'.2 = x.2) hp ?_
    (fun _ hcut => hcut.elim) rfl
  rintro x₁ e hkept he
  refine ⟨trivial, ?_⟩
  rintro r x₂ ⟨_, henables⟩
  cases e with
  | read reg => exact henables.2.trans hkept
  | write reg v => exact he.elim
  | indeterminate => exact henables.trans hkept

/-- The frequencies for clocks that are up, as `init_uart` asks for them. -/
theorem wp_frequencies {sysclk : Nat} {apb2 : BitVec 32} {psc : BitVec 16}
    (hup : RunsAt s.clock sysclk apb2 psc) :
    (onRcc (getClockFrequencies noFreq) : McuProc RccFrequencies).wp mcu (fun _ => True)
      (fun freq g' s' => g' = g ∧ freq.apb2Freq = apb2 ∧
        ∃ c, Quiet s.clock c ∧ s' = { s with clock := c }) g s := by
  have hfreq : (getClockFrequencies noFreq).wp (clockHardware anyClock) (fun _ => True) _ ()
      s.clock := wp_getClockFrequencies (allowed_anyClock s.clock)
  have hreads : (getClockFrequencies noFreq).wp rccUnit (fun _ => True)
      (fun _ _ x => x.2 = s.enables) () (s.clock, s.enables) :=
    wp_rccUnit_reads (emits_getClockFrequencies noFreq)
  have hboth := wp_and (wp_rccUnit hfreq) hreads
  refine wp_mono (wp_onRcc hboth) ?_
  rintro freq _ _ ⟨rfl, ⟨c, en⟩, ⟨⟨c₁, hdrift₁, hdrift₂, rfl⟩, hkept⟩, rfl⟩
  have hen : en = s.enables := hkept
  subst hen
  refine ⟨rfl, ?_, c, (hdrift₁.trans hdrift₂).quiet, rfl⟩
  rw [hdrift₁.settled hup.settled]
  exact hup.apb2

/-- The pins before `init_led`: port E was reset. -/
def bootPins (ports : GpioPorts) : Pins := fun gpiox i =>
  (Function.update ports .gpioe (resetPort .gpioe) gpiox).pin i

theorem resetPorts_gpioe (ports : GpioPorts) :
    resetPorts ahb1enrGpioeen ports = Function.update ports .gpioe (resetPort .gpioe) := by
  funext gpiox
  cases gpiox <;> rfl

theorem resetPorts_none (ports : GpioPorts) : resetPorts 0#32 ports = ports := by
  funext gpiox
  cases gpiox <;> rfl

theorem wp_enableAndReset_gpioe (hresets : s.resets = fun _ => 0#32) :
    (enableAndResetRcc .ahb1 ahb1enrGpioeen).wp mcu (fun _ => True)
      (fun _ g' s' => g' = g ∧ ∃ c, Quiet s.clock c ∧
        s' = { s with
          clock := c
          enables := Function.update s.enables .ahb1 (s.enables .ahb1 ||| ahb1enrGpioeen)
          ports := Function.update s.ports .gpioe (resetPort .gpioe) }) g s := by
  refine wp_seq (wp_onRcc wp_setEnr) ?_
  rintro _ _ _ ⟨rfl, ⟨c, en⟩, ⟨hquiet, rfl⟩, rfl⟩
  refine wp_bind.2 (wp_perform.2 ⟨⟨trivial, trivial⟩, ?_⟩)
  rintro (v : BitVec 32) _ ⟨rfl, rfl⟩
  refine wp_bind.2 (wp_perform.2 ⟨⟨trivial, rfl⟩, ?_⟩)
  rintro _ _ rfl
  refine wp_bind.2 (wp_perform.2 ⟨⟨trivial, trivial⟩, ?_⟩)
  rintro (v : BitVec 32) _ ⟨rfl, rfl⟩
  refine wp_perform.2 ⟨⟨trivial, rfl⟩, ?_⟩
  rintro _ _ rfl
  refine ⟨rfl, c, hquiet, ?_⟩
  have hset : s.resets .ahb1 ||| ahb1enrGpioeen = ahb1enrGpioeen := by rw [hresets]; rfl
  have hcleared : ahb1enrGpioeen &&& ~~~ahb1enrGpioeen = 0#32 := by decide
  have hreleased : Function.update (Function.update s.resets .ahb1 ahb1enrGpioeen) .ahb1 0#32 =
      s.resets := by
    rw [Function.update_idem, hresets, Function.update_eq_self_iff]
  simp only [hset, Function.update_self, hcleared, hreleased, if_pos, resetPorts_gpioe,
    resetPorts_none]

/-- The calls of `init_led`. -/
def ledCalls : List GpioCall :=
  [.setGpioConf (some (ledConfig 13#16)), .setPinGpio .gpioe 13#16,
    .setGpioConf (some (ledConfig 14#16)), .setPinGpio .gpioe 14#16,
    .setGpioConf (some (ledConfig 15#16)), .setPinGpio .gpioe 15#16]

theorem wp_ledLoop {D : GpioPorts → Prop} {u : Unit} {ports : GpioPorts} {ps : Pins}
    (h : PinsAre ports ps) :
    (ledLoop 13 3).wp gpioPorts D
      (fun _ _ ports' => PinsAre ports' (ledCalls.foldl GpioCall.effect ps)) u ports := by
  have hvalid : ∀ call ∈ ledCalls, call.Valid := by
    simp [ledCalls, GpioCall.Valid, ledConfig]
  have hcalls : (gpioCalls ledCalls).wp gpioPorts D _ u ports := wp_gpioCalls ledCalls hvalid h
  exact hcalls

/-- The enable registers after `init_led`. -/
def bootEnables : Enables :=
  Function.update initialEnables .ahb1 (initialEnables .ahb1 ||| ahb1enrGpioeen)

theorem wp_initLed (hresets : s.resets = fun _ => 0#32) (henables : s.enables = initialEnables) :
    initLed.wp mcu (fun _ => True)
      (fun _ g' s' => g' = g ∧ ∃ c ports, Quiet s.clock c ∧
        PinsAre ports (ledCalls.foldl GpioCall.effect (bootPins s.ports)) ∧
        s' = { s with clock := c, enables := bootEnables, ports := ports }) g s := by
  refine wp_seq (wp_enableAndReset_gpioe hresets) ?_
  rintro _ _ _ ⟨rfl, c, hquiet, rfl⟩
  have hawake : McuState.Awake { s with
      clock := c
      enables := Function.update s.enables .ahb1 (s.enables .ahb1 ||| ahb1enrGpioeen)
      ports := Function.update s.ports .gpioe (resetPort .gpioe) } .ahb1 (gpioBit .gpioe) := by
    refine ⟨?_, ?_⟩
    · show hasFlag (Function.update s.enables .ahb1 (s.enables .ahb1 ||| ahb1enrGpioeen) .ahb1)
        (gpioBit .gpioe) = true
      rw [Function.update_self, henables]
      rfl
    · show hasFlag (s.resets .ahb1) _ = false
      rw [hresets]
      rfl
  refine wp_mono (wp_onPorts hawake (emits_ledLoop 3 13) (wp_ledLoop fun _ _ _ => rfl)) ?_
  rintro _ _ _ ⟨rfl, ports, hpins, rfl⟩
  refine ⟨rfl, c, ports, hquiet, hpins, ?_⟩
  rw [henables]
  rfl

structure CoreReady (core : CoreState) : Prop where
  fpu : core.cpacr &&& 0xF#32 <<< 20 = 0xF#32 <<< 20
  sdio : hasFlag (core.enabled 1) nvicSdio = true
  dma2 : hasFlag (core.enabled 2) nvicDma2Stream7 = false
  irq : core.irq = true

/-- The board after a boot that succeeded. -/
structure BoardUp (adapter : BitVec 32) (s : McuState) (g' : McuGlobals) (s' : McuState) :
    Prop where
  /-- The line is set up for the clock that is running, and so is the timer at 16 MHz; at 168 MHz
  its prescaler is 83999 cut to 16 bits, and its delays are too short. -/
  clocks : (RunsAt s'.clock 168000000 84000000#32 18463#16 ∧ s'.tim.Ready 18463#16 ∧
      LineReady 729#32 0x200C#32 g'.huart s'.uart) ∨
    (RunsAt s'.clock 16000000 16000000#32 15999#16 ∧ s'.tim.Ready 15999#16 ∧
      LineReady 139#32 0x200C#32 g'.huart s'.uart)
  pins : PinsAre s'.ports ((ledCalls ++ uartCalls).foldl GpioCall.effect (bootPins s.ports))
  enables : s'.enables = bootEnables
  log : g'.log.transferFunc = adapter
  core : CoreReady s'.core

/-- The board after a boot that failed: the first LED is on, and the timer and the line were not
touched. -/
structure BoardDown (g : McuGlobals) (s : McuState) (g' : McuGlobals) (s' : McuState) : Prop where
  pins : PinsAre s'.ports
    ((ledCalls ++ [GpioCall.resetPinGpio .gpioe 13#16]).foldl GpioCall.effect (bootPins s.ports))
  tim : s'.tim = s.tim
  uart : s'.uart = s.uart
  globals : g' = g
  core : CoreReady s'.core

def bootCore (core : CoreState) : CoreState where
  cpacr := core.cpacr ||| 0xF#32 <<< 20
  enabled := Function.update (Function.update core.enabled 1 (core.enabled 1 ||| nvicSdio)) 2
    (Function.update core.enabled 1 (core.enabled 1 ||| nvicSdio) 2 &&& ~~~nvicDma2Stream7)
  irq := true

theorem hasFlag_or_self {v mask : BitVec 32} (hmask : mask ≠ 0#32) :
    hasFlag (v ||| mask) mask = true := by
  have hkept : (v ||| mask) &&& mask = mask := by
    apply BitVec.eq_of_getLsbD_eq
    intro i hi
    simp only [BitVec.getLsbD_and, BitVec.getLsbD_or]
    cases mask.getLsbD i <;> simp
  rw [hasFlag, hkept]
  exact bne_iff_ne.2 hmask

theorem coreReady_bootCore (core : CoreState) : CoreReady (bootCore core) where
  fpu := by
    apply BitVec.eq_of_getLsbD_eq
    intro i hi
    simp only [bootCore, BitVec.getLsbD_and, BitVec.getLsbD_or]
    cases (0xF#32 <<< 20).getLsbD i <;> simp
  sdio := hasFlag_or_self (by decide)
  dma2 := by
    have hcleared : ∀ v : BitVec 32,
        hasFlag (v &&& ~~~nvicDma2Stream7) nvicDma2Stream7 = false := by
      intro v
      have hzero : v &&& ~~~nvicDma2Stream7 &&& nvicDma2Stream7 = 0#32 := by
        rw [BitVec.and_assoc, BitVec.not_and_self]
        exact BitVec.and_zero
      simp [hasFlag, hzero]
    exact hcleared _
  irq := rfl

theorem wp_initFpu {D : McuState → Prop} :
    initFpu.wp mcu D (fun _ g' s' => g' = g ∧
      s' = { s with core := { s.core with cpacr := s.core.cpacr ||| 0xF#32 <<< 20 } }) g s := by
  refine wp_bind.2 (wp_perform.2 ⟨⟨trivial, trivial⟩, ?_⟩)
  rintro (v : BitVec 32) _ ⟨core, ⟨rfl, rfl⟩, rfl⟩
  refine wp_perform.2 ⟨⟨trivial, trivial⟩, ?_⟩
  rintro _ _ ⟨core, rfl, rfl⟩
  exact ⟨rfl, rfl⟩

theorem wp_initIrq {D : McuState → Prop} :
    initIrq.wp mcu D (fun _ g' s' => g' = g ∧ s' = { s with
      core := { s.core with
        enabled := Function.update (Function.update s.core.enabled 1
            (s.core.enabled 1 ||| nvicSdio)) 2
          (Function.update s.core.enabled 1 (s.core.enabled 1 ||| nvicSdio) 2 &&&
            ~~~nvicDma2Stream7)
        irq := true } }) g s := by
  refine wp_bind.2 (wp_perform.2 ⟨⟨trivial, trivial⟩, ?_⟩)
  rintro _ _ ⟨core, rfl, rfl⟩
  refine wp_bind.2 (wp_perform.2 ⟨⟨trivial, trivial⟩, ?_⟩)
  rintro _ _ ⟨core, rfl, rfl⟩
  refine wp_perform.2 ⟨⟨trivial, trivial⟩, ?_⟩
  rintro _ _ ⟨core, rfl, rfl⟩
  exact ⟨rfl, rfl⟩

theorem awake_bootEnables {s : McuState} (henables : s.enables = bootEnables)
    (hresets : s.resets = fun _ => 0#32) :
    s.Awake .ahb1 (gpioBit .gpioa) ∧ s.Awake .ahb1 (gpioBit .gpioe) ∧
      s.Awake .apb1 apb1enrTim2en ∧ s.Awake .apb2 apb2enrUsart1en := by
  simp only [McuState.Awake, henables, hresets]
  decide

/-- The serial line, for clocks that are up. -/
theorem wp_initUart {sysclk : Nat} {apb2 : BitVec 32} {psc : BitVec 16}
    (hup : RunsAt s.clock sysclk apb2 psc) (henables : s.enables = bootEnables)
    (hresets : s.resets = fun _ => 0#32) :
    initUart.wp mcu (fun _ => True)
      (fun _ g' s' => g'.log = g.log ∧
        LineReady (calculateUsartBrr apb2 115200#32) 0x200C#32 g'.huart s'.uart ∧
        (∀ ps, PinsAre s.ports ps → PinsAre s'.ports (uartCalls.foldl GpioCall.effect ps)) ∧
        Quiet s.clock s'.clock ∧ s'.enables = s.enables ∧ s'.core = s.core ∧ s'.tim = s.tim)
      g s := by
  refine wp_seq (wp_frequencies hup) ?_
  rintro freq g₁ s₁ ⟨hg, hfreq, c, hquiet, hs⟩
  have henables₁ : s₁.enables = bootEnables := by rw [hs]; exact henables
  have hresets₁ : s₁.resets = fun _ => 0#32 := by rw [hs]; exact hresets
  obtain ⟨hport, -, -, hline⟩ := awake_bootEnables henables₁ hresets₁
  have hrest : BesideLine s₁ s₁ := ⟨rfl, rfl, rfl, rfl, rfl⟩
  have hsetup : ((setupUart (some uart1Config) freq.apb2Freq).interp usartHandler).wp mcu
      (fun _ => True) _ (g₁.huart, ()) s₁ :=
    (handles_usartHandler hline hport).wp hrest wp_setupUart_line
  refine wp_within.2 (wp_mono hsetup ?_)
  rintro _ x s' ⟨⟨hready, hpins⟩, hbeside⟩
  rw [hfreq] at hready
  have hlog : g₁.log = g.log := by rw [hg]
  refine ⟨hlog, hready, ?_, ?_, ?_, ?_, ?_⟩
  · rw [hs] at hpins
    exact hpins
  · rw [hbeside.clock, hs]
    exact hquiet
  · rw [hbeside.enables, hs]
  · rw [hbeside.core, hs]
  · rw [hbeside.tim, hs]

theorem wp_initTimer_up {sysclk : Nat} {apb2 : BitVec 32} {psc : BitVec 16}
    (hup : RunsAt s.clock sysclk apb2 psc) (hawake : s.Awake .apb1 apb1enrTim2en) :
    (onTimer initTimer : McuProc Unit).wp mcu (fun _ => True)
      (fun _ g' s' => g' = g ∧ ∃ b : Board, b.tim.Ready psc ∧ Quiet s.clock b.clock ∧
        s' = { s with clock := b.clock, tim := b.tim }) g s := by
  have hready : initTimer.wp timerHardware (fun _ => True) _ () ⟨s.clock, s.tim⟩ :=
    wp_initTimer hup.settled
  have hboth := wp_and hready wp_initTimer_clock
  refine wp_mono (wp_onTimer hawake emits_initTimer hboth) ?_
  rintro _ _ _ ⟨rfl, b, ⟨htim, hquiet⟩, rfl⟩
  rw [hup.psc] at htim
  exact ⟨rfl, b, htim, hquiet, rfl⟩

/-- `init_board` from the timer on. -/
theorem wp_afterClocks {adapter : BitVec 32} {sysclk : Nat} {apb2 : BitVec 32} {psc : BitVec 16}
    {ps : Pins} (hup : RunsAt s.clock sysclk apb2 psc) (henables : s.enables = bootEnables)
    (hresets : s.resets = fun _ => 0#32) (hpins : PinsAre s.ports ps) :
    (do
      onTimer initTimer
      initUart
      assign fun g => { g with log := { g.log with transferFunc := adapter } }
      return 0 : McuProc Int).wp mcu (fun _ => True)
      (fun status g' s' => status = 0 ∧ RunsAt s'.clock sysclk apb2 psc ∧ s'.tim.Ready psc ∧
        LineReady (calculateUsartBrr apb2 115200#32) 0x200C#32 g'.huart s'.uart ∧
        PinsAre s'.ports (uartCalls.foldl GpioCall.effect ps) ∧ s'.enables = bootEnables ∧
        g'.log.transferFunc = adapter ∧ s'.core = s.core) g s := by
  obtain ⟨-, -, htim2, -⟩ := awake_bootEnables henables hresets
  refine wp_seq (wp_initTimer_up hup htim2) ?_
  rintro _ g₁ s₁ ⟨_, b, htim, hquiet, hs₁⟩
  have hup₁ : RunsAt s₁.clock sysclk apb2 psc := by
    rw [hs₁]
    exact hup.quiet hquiet
  have henables₁ : s₁.enables = bootEnables := by rw [hs₁]; exact henables
  have hresets₁ : s₁.resets = fun _ => 0#32 := by rw [hs₁]; exact hresets
  refine wp_seq (wp_initUart hup₁ henables₁ hresets₁) ?_
  rintro _ g₂ s₂ ⟨_, hline, hpins₂, hquiet₂, henables₂, hcore₂, htim₂⟩
  refine ⟨rfl, hup₁.quiet hquiet₂, ?_, hline, ?_, henables₂.trans henables₁, rfl, ?_⟩
  · rw [htim₂, hs₁]
    exact htim
  · rw [hs₁] at hpins₂
    exact hpins₂ ps hpins
  · rw [hcore₂, hs₁]

theorem wp_initBoard {adapter : BitVec 32} (hresets : s.resets = fun _ => 0#32) :
    (initBoard adapter).wp mcu (fun _ => True)
      (fun status g' s' => (status = 0 ∧ BoardUp adapter s g' s') ∨
        (status = -1 ∧ BoardDown g s g' s')) g s := by
  refine wp_seq wp_initFpu ?_
  rintro _ _ _ ⟨rfl, rfl⟩
  refine wp_seq wp_initIrq ?_
  rintro _ _ _ ⟨rfl, rfl⟩
  refine wp_seq (wp_onRcc wp_initRcc) ?_
  rintro status _ _ ⟨rfl, ⟨c, en⟩, ⟨hup, rfl⟩, rfl⟩
  refine wp_seq (wp_initLed hresets rfl) ?_
  rintro _ g₁ s₁ ⟨hg₁, c₁, ports, hquiet₁, hpins, hs₁⟩
  subst hg₁
  have henables₁ : s₁.enables = bootEnables := by rw [hs₁]
  have hresets₁ : s₁.resets = fun _ => 0#32 := by rw [hs₁]; exact hresets
  have hcore₁ : CoreReady s₁.core := by rw [hs₁]; exact coreReady_bootCore s.core
  have hpins₁ : PinsAre s₁.ports (ledCalls.foldl GpioCall.effect (bootPins s.ports)) := by
    rw [hs₁]
    exact hpins
  split
  · -- There is no clock.
    obtain ⟨-, hgpioe, -, -⟩ := awake_bootEnables henables₁ hresets₁
    have hvalid : (GpioCall.resetPinGpio .gpioe 13#16).Valid := by
      unfold GpioCall.Valid
      decide
    have hled : (resetPinGpio .gpioe 13#16).wp gpioPorts (fun _ => True) _ () s₁.ports :=
      wp_gpioCall hvalid hpins₁
    refine wp_seq (wp_onPorts hgpioe (emits_writeGpio .gpioe .bsrr _) hled) ?_
    rintro _ _ s₂ ⟨rfl, ports₂, hpins₂, rfl⟩
    refine Or.inr ⟨rfl, ?_, ?_, ?_, rfl, hcore₁⟩
    · rw [List.foldl_append]
      exact hpins₂
    · rw [hs₁]
    · rw [hs₁]
  · rename_i hstatus
    have hup₁ : ClocksUp s₁.clock := by
      rw [hs₁]
      exact (hup (not_not.1 hstatus)).quiet hquiet₁
    have hfast : calculateUsartBrr 84000000#32 115200#32 = 729#32 := by decide +kernel
    have hslow : calculateUsartBrr 16000000#32 115200#32 = 139#32 := by decide +kernel
    rcases hup₁ with hup₁ | hup₁
    · refine wp_mono (wp_afterClocks hup₁ henables₁ hresets₁ hpins₁) ?_
      rintro _ g₂ s₂ ⟨rfl, hup₂, htim, hline, hpins₂, henables₂, hlog, hcore₂⟩
      rw [hfast] at hline
      rw [← List.foldl_append] at hpins₂
      exact Or.inl ⟨rfl, Or.inl ⟨hup₂, htim, hline⟩, hpins₂, henables₂, hlog, hcore₂ ▸ hcore₁⟩
    · refine wp_mono (wp_afterClocks hup₁ henables₁ hresets₁ hpins₁) ?_
      rintro _ g₂ s₂ ⟨rfl, hup₂, htim, hline, hpins₂, henables₂, hlog, hcore₂⟩
      rw [hslow] at hline
      rw [← List.foldl_append] at hpins₂
      exact Or.inl ⟨rfl, Or.inr ⟨hup₂, htim, hline⟩, hpins₂, henables₂, hlog, hcore₂ ▸ hcore₁⟩

end Board

end Startup
end SdioFat32
