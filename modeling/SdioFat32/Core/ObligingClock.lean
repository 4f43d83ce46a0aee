import SdioFat32.Core.ClockSwitch

/-!
# ObligingClock — clock registers without a delay

With the oscillators ready at once and `SWS` following at once, `switch_to_pll_rcc` succeeds from
any state in which the PLL is off.  This is how runs of the clock setup are shown to exist.
-/

namespace SdioFat32
namespace Core

open Effects Cells Proc

variable {ok : ClockRegs → BitVec 2 → Prop} {D : ClockState → Prop} {s s' : ClockState}
  {α : Type} {g : Unit}

/-- The registers after reset: the internal oscillator is on and in use. -/
def resetState : ClockState where
  regs := { pllcfgr := 0x24003010#32, cfgr := 0#32, acr := 0#32 }
  cr := 0x83#32
  sws := 0#2

/-- All that a wait looks for in `CR`, but `PLLON`. -/
def readyFlags : BitVec 32 :=
  rccCrHsion ||| rccCrHsirdy ||| rccCrHseon ||| rccCrHserdy ||| rccCrPllrdy

/-- Everything is ready at once, and `SWS` follows at once. -/
def obliging (s : ClockState) : (e : RccEvent) → e.Response × ClockState
  | .read .cr => (readyFlags ||| s.cr &&& rccCrPllon, s.follow)
  | .read r => (s.follow.shown r, s.follow)
  | .write .cr v => ((), s.follow.writeCr v)
  | .write r v => ((), { s.follow with regs := s.regs.put r v })
  | .indeterminate => (0#32, s.follow)

/-- `PLLON` is not among the ready flags. -/
theorem pllon_ready (x : BitVec 32) :
    (readyFlags ||| x &&& rccCrPllon) &&& rccCrPllon = x &&& rccCrPllon := by
  have hready : readyFlags &&& rccCrPllon = 0#32 := by decide
  apply BitVec.eq_of_getLsbD_eq
  intro i hi
  have hbit := congrArg (fun x => x.getLsbD i) hready
  simp only [BitVec.getLsbD_and, BitVec.getLsbD_or, BitVec.getLsbD_zero] at hbit ⊢
  grind

theorem obliging_allowed (ok : ClockRegs → BitVec 2 → Prop) (s : ClockState) (e : RccEvent) :
    (clockHardware ok).step s e (obliging s e).1 (obliging s e).2 := by
  refine ⟨s.follow, Or.inr rfl, ?_⟩
  cases e with
  | read r =>
      cases r with
      | cr =>
          exact ⟨pllon_ready s.cr, rfl⟩
      | _ => exact ⟨fun _ => rfl, rfl⟩
  | write r v => cases r <;> rfl
  | indeterminate => rfl

def obligingHardware : Env RccEvent RccEvent.Response ClockState := Env.following obliging

theorem obliging_step (s : ClockState) (e : RccEvent) (r : e.Response) (s' : ClockState)
    (h : obligingHardware.step s e r s') : (clockHardware ok).step s e r s' := by
  have hboth : (r, s') = obliging s e := h
  have hallowed := obliging_allowed ok s e
  rw [← hboth] at hallowed
  exact hallowed

/-- What is shown of the hardware holds of the one that obliges. -/
theorem wp_obliging {p : RccProc α} {Q : α → Unit → ClockState → Prop}
    (h : p.wp (clockHardware ok) D Q g s) : p.wp obligingHardware D Q g s :=
  wp_narrow (fun s e r s' => obliging_step s e r s') (fun _ _ _ => trivial) h

theorem wp_readCr_obliging {Q : BitVec 32 → Unit → ClockState → Prop}
    (h : Q (readyFlags ||| s.cr &&& rccCrPllon) g s.follow) :
    (readReg .cr).wp obligingHardware D Q g s := by
  refine ⟨trivial, ?_⟩
  rintro v s' hstep
  have hboth : (v, s') = (readyFlags ||| s.cr &&& rccCrPllon, s.follow) := hstep
  cases hboth
  exact h

theorem wp_readCfgr_obliging {Q : BitVec 32 → Unit → ClockState → Prop}
    (h : Q (s.follow.shown .cfgr) g s.follow) : (readReg .cfgr).wp obligingHardware D Q g s := by
  refine ⟨trivial, ?_⟩
  rintro v s' hstep
  have hboth : (v, s') = (s.follow.shown .cfgr, s.follow) := hstep
  cases hboth
  exact h

/-- A flag that is ready is read as set. -/
theorem ready_and {flag x : BitVec 32} (hflag : readyFlags &&& flag = flag) :
    (readyFlags ||| x) &&& flag = flag := by
  apply BitVec.eq_of_getLsbD_eq
  intro i hi
  have hbit := congrArg (fun x => x.getLsbD i) hflag
  simp only [BitVec.getLsbD_and, BitVec.getLsbD_or] at hbit ⊢
  grind

theorem wp_startOscillator_obliging {on ready : BitVec 32} {timeout : Nat} {error : Int}
    (hon : readyFlags &&& on = on) (hne : on ≠ 0#32) :
    (startOscillator on ready timeout error).wp obligingHardware D
      (fun status _ s' => status = 0 ∧ s'.cr = s.cr) g s := by
  refine wp_bind.2 (wp_readCr_obliging ?_)
  rw [ready_and hon, if_neg hne]
  exact ⟨rfl, rfl⟩

theorem wp_waitForFlags_obliging {flags : BitVec 32} {timeout : Nat}
    (hflags : readyFlags &&& flags = flags) :
    (waitForFlags .cr flags (timeout + 1)).wp obligingHardware D
      (fun status _ _ => status = 0) g s := by
  refine wp_bind.2 (wp_readCr_obliging ?_)
  rw [if_pos (ready_and hflags)]
  rfl

theorem wp_sourceReady_obliging :
    (sourceReady rccPll).wp obligingHardware D (fun status _ s' => status = 0 ∧ s'.cr = s.cr)
      g s := by
  have hready : readyFlags &&& rccCrPllrdy = rccCrPllrdy := by decide
  have hne : rccCrPllrdy ≠ 0#32 := by decide
  refine wp_bind.2 (wp_readCr_obliging ?_)
  rw [ready_and hready, if_neg hne]
  exact ⟨rfl, rfl⟩

theorem wp_waitSws_obliging {src : BitVec 32} {error : Int} {counter : Nat}
    (hsrc : src.toNat < 2 ^ 2) (hsw : s.regs.sw = src.setWidth 2) :
    (waitSws src error (counter + 1)).wp obligingHardware D (fun status _ _ => status = 0) g s := by
  have hmatch : s.follow.shown .cfgr &&& rccCfgrSws 3#32 = rccCfgrSws src := by
    rw [rccCfgrSws_eq]
    refine (and_fieldMask_eq_iff hsrc (by decide)).2 ?_
    rw [field_shown_sws]
    show s.regs.sw.setWidth 32 = src
    rw [hsw]
    apply BitVec.eq_of_toNat_eq
    simp only [BitVec.toNat_setWidth]
    omega
  refine wp_bind.2 (wp_readCfgr_obliging ?_)
  rw [if_pos hmatch]
  rfl

/-- The PLL is selected, and is the clock in use. -/
theorem wp_selectSysClock_obliging :
    (selectSysClock rccPll).wp obligingHardware D
      (fun status _ s' => status = 0 ∧ s'.regs.sw = pllSelected) g s := by
  refine wp_seq wp_sourceReady_obliging ?_
  rintro status _ s₁ ⟨rfl, -⟩
  rw [if_neg (by decide)]
  refine wp_seq (wp_obliging (wp_clearBits rfl (allowed_anyClock s₁))) fun _ _ s₂ hwrote₂ => ?_
  refine wp_seq (wp_obliging (wp_setBits rfl (allowed_anyClock s₂))) fun _ _ s₃ hwrote₃ => ?_
  have hsw : s₃.regs.sw = pllSelected := by
    rw [hwrote₃.regs, hwrote₂.regs]
    exact ClockRegs.sw_select s₁.regs (by decide : rccPll.toNat < 2 ^ 2)
  refine wp_mono (wp_and (wp_waitSws_obliging (by decide) hsw)
    (wp_obliging (wp_waitSws (by decide) (by decide) (allowed_anyClock s₃) _))) ?_
  rintro status _ s₄ ⟨hstatus, hdrift, -⟩
  refine ⟨hstatus, ?_⟩
  rw [hdrift.regs]
  exact hsw

variable {config : RccPllConfig}

theorem wp_startPllSource_obliging :
    (startPllSource config).wp obligingHardware D (fun status _ s' => status = 0 ∧ s'.cr = s.cr)
      g s := by
  unfold startPllSource
  split
  · exact wp_startOscillator_obliging (by decide) (by decide)
  · exact wp_startOscillator_obliging (by decide) (by decide)

theorem wp_stopPll_obliging (hoff : s.cr &&& rccCrPllon = 0#32) :
    stopPll.wp obligingHardware D (fun status _ s' => status = 0 ∧ s'.cr = s.cr) g s := by
  refine wp_bind.2 (wp_readCr_obliging ?_)
  rw [pllon_ready, if_neg (not_not.2 hoff)]
  exact ⟨rfl, rfl⟩

theorem wp_configurePllRcc_obliging (hin : config.InRange) (hoff : s.cr &&& rccCrPllon = 0#32) :
    (configurePllRcc config).wp obligingHardware D (fun status _ _ => status = 0) g s := by
  refine wp_bind.2 (wp_readCr_obliging ?_)
  have hsource : ¬(config.source.setWidth 32 ≠ rccHse ∧ config.source.setWidth 32 ≠ rccHsi) := by
    rcases hin.source with hsrc | hsrc
    · rw [hsrc]
      decide
    · rw [hsrc]
      decide
  rw [pllon_ready, if_neg (not_not.2 hoff), if_neg hsource]
  refine wp_seq (wp_obliging (wp_clearBits rfl (allowed_anyClock _))) fun _ _ s₁ _ => ?_
  refine wp_seq (wp_obliging (wp_setBits rfl (allowed_anyClock s₁))) fun _ _ s₂ _ => ?_
  refine wp_seq (wp_obliging (wp_setBits rfl (allowed_anyClock s₂))) fun _ _ s₃ _ => ?_
  refine wp_seq (wp_obliging (wp_setBits rfl (allowed_anyClock s₃))) fun _ _ s₄ _ => ?_
  refine wp_seq (wp_obliging (wp_setBits rfl (allowed_anyClock s₄))) fun _ _ s₅ _ => ?_
  refine wp_seq (wp_obliging (wp_clearBits rfl (allowed_anyClock s₅))) fun _ _ s₆ _ => ?_
  exact wp_seq (wp_obliging (wp_setBits rfl (allowed_anyClock s₆))) fun _ _ s₇ _ => rfl

theorem wp_startPll_obliging (hin : config.InRange) (hoff : s.cr &&& rccCrPllon = 0#32) :
    (startPll config).wp obligingHardware D (fun status _ _ => status = 0) g s := by
  refine wp_seq (wp_configurePllRcc_obliging hin hoff) ?_
  rintro status _ s₁ rfl
  rw [if_neg (by decide)]
  refine wp_seq (wp_obliging (wp_setPllon (allowed_anyClock s₁))) fun _ _ s₂ _ => ?_
  refine wp_seq (wp_waitForFlags_obliging (by decide)) ?_
  rintro status _ s₃ rfl
  rw [if_neg (by decide)]
  refine wp_seq wp_selectSysClock_obliging ?_
  rintro status _ s₄ ⟨rfl, hsw⟩
  rw [if_neg (by decide)]
  exact wp_waitSws_obliging (by decide) hsw

/-- With the PLL off, the switch succeeds. -/
theorem wp_switchToPllRcc_obliging (hin : config.InRange) (hoff : s.cr &&& rccCrPllon = 0#32) :
    (switchToPllRcc (some config)).wp obligingHardware D (fun status _ _ => status = 0) g s := by
  unfold switchToPllRcc
  refine wp_seq wp_startPllSource_obliging ?_
  rintro status _ s₁ ⟨rfl, hcr₁⟩
  rw [if_neg (by decide)]
  refine wp_seq (wp_obliging (wp_reads (emits_perform trivial) (allowed_anyClock s₁))) ?_
  intro unset _ s₂ hdrift₂
  refine wp_seq (wp_obliging (wp_getClockFrequencies (allowed_anyClock s₂))) ?_
  rintro freq _ s₄ ⟨s₃, hdrift₃, hdrift₄, -⟩
  refine wp_seq (wp_obliging (wp_latencyIf (allowed_anyClock s₄) fun _ =>
    ⟨fun _ _ => trivial, fun _ _ => trivial⟩)) ?_
  rintro _ _ s₅ ⟨hwrote, -⟩
  have hoff₅ : s₅.cr &&& rccCrPllon = 0#32 := by
    rw [hwrote.cr, hdrift₄.cr, hdrift₃.cr, hdrift₂.cr, hcr₁]
    exact hoff
  refine wp_seq (wp_stopPll_obliging hoff₅) ?_
  rintro status _ s₆ ⟨rfl, hcr₆⟩
  rw [if_neg (by decide)]
  rw [← hcr₆] at hoff₅
  refine wp_seq (wp_startPll_obliging hin hoff₅) ?_
  rintro status _ s₇ rfl
  rw [if_neg (by decide)]
  exact wp_seq (wp_obliging (wp_latencyIf (allowed_anyClock s₇) fun _ =>
    ⟨fun _ _ => trivial, fun _ _ => trivial⟩)) fun _ _ s₈ _ => rfl

/-! ## A configuration -/

/-- 168 MHz from the internal oscillator. -/
def pll168 : RccPllConfig where
  pllm := 16#32
  plln := 336#32
  pllp := 0#32
  pllq := 7#32
  source := 0#8

theorem pll168_inRange : pll168.InRange :=
  ⟨by decide, by decide, by decide, by decide, by decide, Or.inl rfl⟩

end Core
end SdioFat32
