import SdioFat32.Core.RccFields

/-!
# ClockSwitch — what the procedures of the clock setup do

One specification for each procedure of the source: which of the three registers it writes, which
clock may be in use afterwards, and what a returned `0` says.  What is asked of the registers is
asked in the states that the procedure writes.
-/

namespace SdioFat32
namespace Core

open Effects Cells Proc

variable {ok : ClockRegs → BitVec 2 → Prop} {D : ClockState → Prop} {s s' : ClockState}
  {α : Type} {g : Unit}

/-! ## Procedures that only read -/

def ReadEvent : RccEvent → Prop
  | .write _ _ => False
  | _ => True

theorem ReadEvent.drift {e : RccEvent} {r : e.Response} (he : ReadEvent e)
    (hstep : (clockHardware ok).step s e r s') : Drift s s' := by
  rcases hstep with ⟨s₁, hdrift, hstep⟩
  have hsame : ∀ {s₂}, s₂ = s₁ → Drift s s₂ := by
    rintro _ rfl
    exact hdrift
  cases e with
  | read reg => cases reg <;> exact hsame hstep.2
  | write reg v => cases he
  | indeterminate => exact hsame hstep

theorem wp_reads {p : RccProc α} (hp : p.Emits ReadEvent False) (hok : Allowed ok s) :
    p.wp (clockHardware ok) D (fun _ _ s' => Drift s s') g s := by
  refine wp_frame (I := Drift s) hp ?_ (fun _ hcut => hcut.elim) (Drift.refl s)
  intro s₁ e hdrift he
  exact ⟨(hdrift.quiet.allowed hok).now, fun r s₂ hstep => hdrift.trans (he.drift hstep)⟩

theorem emits_waitForFlags {P : RccEvent → Prop} {r : RccReg} {flags : BitVec 32}
    (h : P (.read r)) (timeout : Nat) : (waitForFlags r flags timeout).Emits P False := by
  induction timeout with
  | zero => exact emits_pure _
  | succ timeout ih =>
      refine (emits_perform h).bind fun v => ?_
      exact emits_ite (emits_pure _) ih

theorem emits_checkReady (flag : BitVec 32) (error : Int) :
    (checkReady flag error).Emits ReadEvent False := by
  refine (emits_perform trivial).bind fun v => ?_
  exact emits_ite (emits_pure _) (emits_pure _)

/-! ## Procedures that write `CR` or the enable registers -/

theorem emits_setBits {r : RccReg} {mask : BitVec 32} (hr : r.decides = false) :
    (setBits r mask).Emits QuietEvent False :=
  (emits_perform trivial).bind fun _ => emits_perform hr

theorem emits_clearBits {r : RccReg} {mask : BitVec 32} (hr : r.decides = false) :
    (clearBits r mask).Emits QuietEvent False :=
  (emits_perform trivial).bind fun _ => emits_perform hr

theorem emits_disableAllGpioClocksRcc : disableAllGpioClocksRcc.Emits QuietEvent False := by
  have hwrite : ∀ r v, r.decides = false → (writeReg r v).Emits QuietEvent False :=
    fun r v hr => emits_perform hr
  unfold disableAllGpioClocksRcc
  refine (hwrite _ _ rfl).bind fun _ => (hwrite _ _ rfl).bind fun _ => ?_
  exact (hwrite _ _ rfl).bind fun _ => (hwrite _ _ rfl).bind fun _ => hwrite _ _ rfl

theorem emits_startOscillator {on ready : BitVec 32} {timeout : Nat} {error : Int} :
    (startOscillator on ready timeout error).Emits QuietEvent False := by
  refine (emits_perform trivial).bind fun cr => ?_
  refine emits_ite ?_ (emits_pure _)
  refine (emits_setBits rfl).bind fun _ => ?_
  refine (emits_waitForFlags trivial timeout).bind fun status => ?_
  exact emits_ite (emits_pure _) (emits_pure _)

theorem emits_stopOscillator {on : BitVec 32} :
    (stopOscillator on).Emits QuietEvent False := by
  refine (emits_perform trivial).bind fun cr => ?_
  exact emits_ite (emits_clearBits rfl) (emits_pure _)

theorem emits_pllOffLoop (timeout : Nat) : (pllOffLoop timeout).Emits QuietEvent False := by
  induction timeout with
  | zero => exact emits_pure _
  | succ timeout ih =>
      refine (emits_perform trivial).bind fun cr => ?_
      exact emits_ite (emits_pure _) ih

theorem emits_stopPll : stopPll.Emits QuietEvent False := by
  refine (emits_perform trivial).bind fun cr => ?_
  exact emits_ite ((emits_clearBits rfl).bind fun _ => emits_pllOffLoop _) (emits_pure _)

theorem emits_startPllSource (config : RccPllConfig) :
    (startPllSource config).Emits QuietEvent False :=
  emits_ite emits_startOscillator emits_startOscillator

/-- The PLL is on after it was switched on. -/
theorem wp_setPllon (hok : Allowed ok s) :
    (setBits .cr rccCrPllon).wp (clockHardware ok) D
      (fun _ _ s' => Quiet s s' ∧ s'.cr &&& rccCrPllon ≠ 0#32) g s := by
  refine wp_bind.2 (wp_readCr hok fun v s₁ hdrift _ => ?_)
  refine ⟨(hdrift.quiet.allowed hok).now, ?_⟩
  rintro _ s₂ ⟨s₃, hdrift', hwrite⟩
  have hall := hdrift.trans hdrift'
  have hwritten : s₂ = s₃.writeCr (v ||| rccCrPllon) := hwrite
  subst hwritten
  refine ⟨⟨hall.regs, hall.sws⟩, ?_⟩
  have hbit : ((s₃.writeCr (v ||| rccCrPllon)).cr &&& rccCrPllon).getLsbD 24 = true := by
    have hon : rccCrPllon.getLsbD 24 = true := by decide
    unfold ClockState.writeCr
    split
    · simp [hon]
    · simp [hon]
  intro hzero
  rw [hzero] at hbit
  simp at hbit

/-! ## The clock in use -/

theorem wp_waitSws {src : BitVec 32} {error : Int} (hsrc : src.toNat < 2 ^ 2) (herror : error ≠ 0)
    (hok : Allowed ok s) (counter : Nat) :
    (waitSws src error counter).wp (clockHardware ok) D
      (fun status _ s' => Drift s s' ∧ (status = 0 → s'.sws = src.setWidth 2)) g s := by
  induction counter generalizing s with
  | zero => exact ⟨Drift.refl s, fun h => absurd h herror⟩
  | succ counter ih =>
      refine wp_bind.2 (wp_readReg rfl hok fun s₁ hdrift => ?_)
      split
      · next hmatch =>
        refine ⟨hdrift, fun _ => ?_⟩
        have hfield : field (s₁.shown .cfgr) 2 2 = src := by
          rw [rccCfgrSws_eq] at hmatch
          exact (and_fieldMask_eq_iff hsrc (by decide)).1 hmatch
        rw [field_shown_sws] at hfield
        rw [← hfield]
        simp
      · refine wp_mono (ih (hdrift.quiet.allowed hok)) ?_
        rintro status _ s₂ ⟨hdrift', hstatus⟩
        exact ⟨hdrift.trans hdrift', hstatus⟩

/-- The clock selected is `src`. -/
structure Selected (src : BitVec 32) (s s' : ClockState) : Prop where
  regs : s'.regs = s.regs.select src
  cr : s'.cr = s.cr
  sws : s'.sws = s.sws ∨ s'.sws = s.regs.sw ∨ s'.sws = 0#2 ∨ s'.sws = src.setWidth 2

/-- What `select_sys_clock` must be allowed to write: first `SW` is cleared. -/
structure SelectAllowed (ok : ClockRegs → BitVec 2 → Prop) (src : BitVec 32) (ρ : ClockRegs)
    (sws : BitVec 2) : Prop where
  clear : ∀ c, c = sws ∨ c = ρ.sw ∨ c = 0#2 → ok (ρ.andNot .cfgr (rccCfgrSw 3#32)) c
  select : ∀ c, c = sws ∨ c = ρ.sw ∨ c = 0#2 ∨ c = src.setWidth 2 → ok (ρ.select src) c

/-- `RCC_ClockSource`, as the source enumerates it. -/
def IsClockSource (src : BitVec 32) : Prop := src = rccHsi ∨ src = rccHse ∨ src = rccPll

theorem IsClockSource.lt {src : BitVec 32} (h : IsClockSource src) : src.toNat < 2 ^ 2 := by
  rcases h with rfl | rfl | rfl <;> decide

/-- The test of the ready flag before the switch. -/
theorem emits_sourceReady (src : BitVec 32) : (sourceReady src).Emits ReadEvent False := by
  refine emits_ite (emits_checkReady _ _) (emits_ite (emits_checkReady _ _) ?_)
  exact emits_ite (emits_checkReady _ _) (emits_pure _)

theorem wp_selectSysClock {src : BitVec 32} (hsrc : IsClockSource src) (hok : Allowed ok s)
    (hselect : SelectAllowed ok src s.regs s.sws) :
    (selectSysClock src).wp (clockHardware ok) D
      (fun status _ s' => (status ≠ 0 ∧ Drift s s') ∨
        Selected src s s' ∧ (status = 0 → s'.sws = src.setWidth 2)) g s := by
  refine wp_seq (wp_reads (emits_sourceReady src) hok) fun status _ s₁ hdrift => ?_
  split
  · next hstatus => exact Or.inl ⟨hstatus, hdrift⟩
  refine wp_seq (wp_clearBits rfl (hdrift.quiet.allowed hok)) ?_
  rintro _ _ s₂ ⟨hregs₂, hcr₂, hsws₂⟩
  rw [hdrift.regs] at hregs₂
  -- `SW` is zero now, so the clock in use may become the internal one.
  have hsw₂ : s₂.regs.sw = 0#2 := by
    rw [hregs₂]
    exact ClockRegs.sw_andNot _
  have hsws₂' : s₂.sws = s.sws ∨ s₂.sws = s.regs.sw := by
    rw [hdrift.regs] at hsws₂
    rcases hsws₂ with h | h
    · rw [h]
      exact hdrift.sws
    · exact Or.inr h
  have hok₂ : Allowed ok s₂ := by
    refine ⟨?_, ?_⟩
    · rw [hregs₂]
      exact hselect.clear _ (hsws₂'.imp_right Or.inl)
    · rw [hsw₂, hregs₂]
      exact hselect.clear _ (Or.inr (Or.inr rfl))
  refine wp_seq (wp_setBits rfl hok₂) ?_
  rintro _ _ s₃ ⟨hregs₃, hcr₃, hsws₃⟩
  have hregs₃' : s₃.regs = s.regs.select src := by
    rw [hregs₃, hregs₂]
    rfl
  have hsw₃ : s₃.regs.sw = src.setWidth 2 := by
    rw [hregs₃']
    exact ClockRegs.sw_select _ hsrc.lt
  have hsws₃' : s₃.sws = s.sws ∨ s₃.sws = s.regs.sw ∨ s₃.sws = 0#2 := by
    rcases hsws₃ with h | h
    · rw [h]
      exact hsws₂'.imp_right Or.inl
    · rw [h, hsw₂]
      exact Or.inr (Or.inr rfl)
  have hok₃ : Allowed ok s₃ := by
    refine ⟨?_, ?_⟩
    · rw [hregs₃']
      exact hselect.select _ (hsws₃'.imp_right (Or.imp_right Or.inl))
    · rw [hsw₃, hregs₃']
      exact hselect.select _ (Or.inr (Or.inr (Or.inr rfl)))
  refine wp_mono (wp_waitSws hsrc.lt (by decide) hok₃ _) ?_
  rintro status' _ s₄ ⟨hdrift₄, hstatus⟩
  refine Or.inr ⟨⟨hdrift₄.regs.trans hregs₃', ?_, ?_⟩, hstatus⟩
  · rw [hdrift₄.cr, hcr₃, hcr₂, hdrift.cr]
  · rcases hdrift₄.sws with h | h
    · rw [h]
      exact hsws₃'.imp_right (Or.imp_right Or.inl)
    · rw [h, hsw₃]
      exact Or.inr (Or.inr (Or.inr rfl))

theorem Selected.allowed {src : BitVec 32} (h : Selected src s s') (hsrc : src.toNat < 2 ^ 2)
    (hselect : SelectAllowed ok src s.regs s.sws) : Allowed ok s' := by
  refine ⟨?_, ?_⟩
  · rw [h.regs]
    exact hselect.select _ h.sws
  · rw [h.regs, ClockRegs.sw_select _ hsrc]
    exact hselect.select _ (Or.inr (Or.inr (Or.inr rfl)))

/-- A PLL that is in use stays on. -/
theorem Selected.locked {src : BitVec 32} (h : Selected src s s') (hsrc : src.toNat < 2 ^ 2)
    (hon : src.setWidth 2 = pllSelected → s.cr &&& rccCrPllon ≠ 0#32) (hlock : Locked s) :
    Locked s' := by
  intro huse
  rw [h.cr]
  rcases huse with hsw | hsws
  · rw [h.regs, ClockRegs.sw_select _ hsrc] at hsw
    exact hon hsw
  · rcases h.sws with hsame | hsame | hsame | hsame
    · exact hlock (Or.inr (hsame ▸ hsws))
    · exact hlock (Or.inl (hsame ▸ hsws))
    · rw [hsame] at hsws
      exact absurd hsws (by decide)
    · exact hon (hsame ▸ hsws)

/-! ## The PLL -/

/-- A step of `configure_pll_rcc`, while `PLLCFGR` may hold anything. -/
structure Programming (v : BitVec 32) (s s' : ClockState) : Prop where
  regs : s'.regs = { s.regs with pllcfgr := v }
  cr : s'.cr = s.cr
  sws : s'.sws = s.sws ∨ s'.sws = s.regs.sw

theorem Programming.allowed {v : BitVec 32} (h : Programming v s s')
    (hfree : ∀ v c, c = s.sws ∨ c = s.regs.sw → ok { s.regs with pllcfgr := v } c) :
    Allowed ok s' := by
  refine ⟨?_, ?_⟩
  · rw [h.regs]
    exact hfree v _ h.sws
  · rw [h.regs]
    exact hfree v _ (Or.inr rfl)

theorem Programming.wrote {v w : BitVec 32} {s₁ : ClockState} (h : Programming v s s₁)
    (h' : Wrote { s.regs with pllcfgr := w } s₁ s') : Programming w s s' := by
  refine ⟨h'.regs, h'.cr.trans h.cr, ?_⟩
  rcases h'.sws with hsws | hsws
  · rw [hsws]
    exact h.sws
  · rw [hsws, h.regs]
    exact Or.inr rfl

section Programming

variable {v mask : BitVec 32} {s₁ : ClockState}
  (hfree : ∀ v c, c = s.sws ∨ c = s.regs.sw → ok { s.regs with pllcfgr := v } c)

include hfree

theorem wp_programSet (h : Programming v s s₁) :
    (setBits .pllcfgr mask).wp (clockHardware ok) D
      (fun _ _ s' => Programming (v ||| mask) s s') g s₁ := by
  refine wp_mono (wp_setBits rfl (h.allowed hfree)) ?_
  rintro _ _ s₂ hwrote
  rw [h.regs] at hwrote
  exact h.wrote hwrote

theorem wp_programClear (h : Programming v s s₁) :
    (clearBits .pllcfgr mask).wp (clockHardware ok) D
      (fun _ _ s' => Programming (v &&& ~~~mask) s s') g s₁ := by
  refine wp_mono (wp_clearBits rfl (h.allowed hfree)) ?_
  rintro _ _ s₂ hwrote
  rw [h.regs] at hwrote
  exact h.wrote hwrote

end Programming

/-- Only a PLL that is off is programmed. -/
theorem wp_configurePllRcc {config : RccPllConfig} (hok : Allowed ok s)
    (hfree : s.cr &&& rccCrPllon = 0#32 → ∀ v c, c = s.sws ∨ c = s.regs.sw →
      ok { s.regs with pllcfgr := v } c) :
    (configurePllRcc config).wp (clockHardware ok) D
      (fun status _ s' => (status ≠ 0 ∧ Drift s s') ∨
        status = 0 ∧ s.cr &&& rccCrPllon = 0#32 ∧
          Programming (config.encode s.regs.pllcfgr) s s') g s := by
  refine wp_bind.2 (wp_readCr hok fun v s₁ hdrift hcr => ?_)
  split
  · exact Or.inl ⟨by simp, hdrift⟩
  next hoff =>
  split
  · exact Or.inl ⟨by simp, hdrift⟩
  -- The PLL is off: no clock that counts comes from what is programmed, one field at a time.
  have hoff' : s.cr &&& rccCrPllon = 0#32 := by
    rw [← hdrift.cr, ← hcr]
    exact not_not.1 hoff
  have hfree' := hfree hoff'
  have hstart : Programming s.regs.pllcfgr s s₁ := ⟨hdrift.regs, hdrift.cr, hdrift.sws⟩
  refine wp_seq (wp_programClear hfree' hstart) fun _ _ s₂ h₂ => ?_
  refine wp_seq (wp_programSet hfree' h₂) fun _ _ s₃ h₃ => ?_
  refine wp_seq (wp_programSet hfree' h₃) fun _ _ s₄ h₄ => ?_
  refine wp_seq (wp_programSet hfree' h₄) fun _ _ s₅ h₅ => ?_
  refine wp_seq (wp_programSet hfree' h₅) fun _ _ s₆ h₆ => ?_
  refine wp_seq (wp_programClear hfree' h₆) fun _ _ s₇ h₇ => ?_
  refine wp_seq (wp_programSet hfree' h₇) fun _ _ s₈ h₈ => ?_
  exact Or.inr ⟨rfl, hoff', h₈⟩

/-- What `startPll` must be allowed to write, once the PLL is found to be off. -/
structure StartAllowed (ok : ClockRegs → BitVec 2 → Prop) (config : RccPllConfig)
    (s : ClockState) : Prop where
  program : ∀ v c, c = s.sws ∨ c = s.regs.sw → ok { s.regs with pllcfgr := v } c
  select : ∀ c, c = s.sws ∨ c = s.regs.sw → SelectAllowed ok rccPll (config.configured s.regs) c

/-- How far `startPll` got. -/
inductive PllStarted (config : RccPllConfig) (status : Int) (s s' : ClockState) : Prop where
  | refused (hstatus : status ≠ 0) (quiet : Quiet s s')
  | programmed (hstatus : status ≠ 0) (off : s.cr &&& rccCrPllon = 0#32)
      (regs : s'.regs = config.configured s.regs) (sws : s'.sws = s.sws ∨ s'.sws = s.regs.sw)
  | selected (off : s.cr &&& rccCrPllon = 0#32)
      (regs : s'.regs = (config.configured s.regs).select rccPll)
      (sws : s'.sws = s.sws ∨ s'.sws = s.regs.sw ∨ s'.sws = 0#2 ∨ s'.sws = pllSelected)
      (following : status = 0 → s'.sws = pllSelected)

/-- The procedure goes on from a PLL that was programmed. -/
theorem Programming.quiet {v : BitVec 32} {s₁ : ClockState} (h : Programming v s s₁)
    (h' : Quiet s₁ s') :
    s'.regs = { s.regs with pllcfgr := v } ∧ (s'.sws = s.sws ∨ s'.sws = s.regs.sw) := by
  refine ⟨h'.regs.trans h.regs, ?_⟩
  rcases h'.sws with hsws | hsws
  · rw [hsws]
    exact h.sws
  · rw [hsws, h.regs]
    exact Or.inr rfl

theorem Programming.locked {v : BitVec 32} (h : Programming v s s') (hlock : Locked s) :
    Locked s' := by
  intro huse
  rw [h.cr]
  apply hlock
  rcases huse with hsw | hsws
  · rw [h.regs] at hsw
    exact Or.inl hsw
  · rcases h.sws with hsame | hsame
    · exact Or.inr (hsame ▸ hsws)
    · exact Or.inl (hsame ▸ hsws)

theorem wp_startPll {config : RccPllConfig} (hok : Allowed ok s)
    (hallowed : s.cr &&& rccCrPllon = 0#32 → StartAllowed ok config s) :
    (startPll config).wp (clockHardware ok) D
      (fun status _ s' => PllStarted config status s s' ∧ (Locked s → Locked s') ∧
        Allowed ok s') g s := by
  refine wp_seq (wp_configurePllRcc hok fun hoff => (hallowed hoff).program) ?_
  rintro status _ s₁ (⟨hstatus, hdrift⟩ | ⟨rfl, hoff, hprog⟩)
  · rw [if_pos hstatus]
    exact ⟨.refused (by simp) hdrift.quiet, hdrift.locked, hdrift.quiet.allowed hok⟩
  rw [if_neg (by decide)]
  -- The PLL is off and programmed: it is switched on, and `PLLRDY` is waited for.
  have hstart := hallowed hoff
  have hok₁ : Allowed ok s₁ := hprog.allowed hstart.program
  refine wp_seq (wp_and (wp_quiet (emits_setBits rfl) hok₁) (wp_setPllon hok₁)) ?_
  rintro _ _ s₂ ⟨⟨hquiet₂, hlock₂⟩, -, hon⟩
  have hok₂ := hquiet₂.allowed hok₁
  refine wp_seq (wp_reads (emits_waitForFlags trivial _) hok₂) fun status _ s₃ hdrift₃ => ?_
  have hok₃ := hdrift₃.quiet.allowed hok₂
  have hall := hprog.quiet (hquiet₂.trans hdrift₃.quiet)
  have hlock₃ : Locked s → Locked s₃ := fun h => hdrift₃.locked (hlock₂ (hprog.locked h))
  split
  · exact ⟨.programmed (by simp) hoff hall.1 hall.2, hlock₃, hok₃⟩
  -- It becomes the system clock, if `PLLRDY` still reads as set.
  have hselect : SelectAllowed ok rccPll s₃.regs s₃.sws := by
    rw [hall.1]
    exact hstart.select _ hall.2
  refine wp_seq (wp_selectSysClock (Or.inr (Or.inr rfl)) hok₃ hselect) ?_
  rintro status _ s₄ (⟨hstatus, hdrift₄⟩ | ⟨hsel, hsws⟩)
  · rw [if_pos hstatus]
    have hall₄ := hprog.quiet ((hquiet₂.trans hdrift₃.quiet).trans hdrift₄.quiet)
    exact ⟨.programmed (by simp) hoff hall₄.1 hall₄.2, fun h => hdrift₄.locked (hlock₃ h),
      hdrift₄.quiet.allowed hok₃⟩
  have hon₃ : s₃.cr &&& rccCrPllon ≠ 0#32 := by
    rw [hdrift₃.cr]
    exact hon
  have hlock₄ : Locked s → Locked s₄ := fun h => hsel.locked (by decide) (fun _ => hon₃) (hlock₃ h)
  have hregs₄ : s₄.regs = (config.configured s.regs).select rccPll := by
    rw [hsel.regs, hall.1]
    rfl
  have hok₄ : Allowed ok s₄ := hsel.allowed (by decide) hselect
  have hsws₄ : s₄.sws = s.sws ∨ s₄.sws = s.regs.sw ∨ s₄.sws = 0#2 ∨ s₄.sws = pllSelected := by
    rcases hsel.sws with h | h | h | h
    · rw [h]
      exact hall.2.imp_right Or.inl
    · rw [h, hall.1]
      exact Or.inr (Or.inl rfl)
    · exact Or.inr (Or.inr (Or.inl h))
    · exact Or.inr (Or.inr (Or.inr h))
  split
  · next hstatus =>
    exact ⟨.selected hoff hregs₄ hsws₄ fun h => absurd h (by simp), hlock₄, hok₄⟩
  refine wp_mono (wp_waitSws (by decide) (by decide) hok₄ _) ?_
  rintro status' _ s₅ ⟨hdrift₅, hstatus'⟩
  have hsws₅ : s₅.sws = s.sws ∨ s₅.sws = s.regs.sw ∨ s₅.sws = 0#2 ∨ s₅.sws = pllSelected := by
    rcases hdrift₅.sws with h | h
    · rw [h]
      exact hsws₄
    · rw [h, hregs₄, ClockRegs.sw_select _ (by decide)]
      exact Or.inr (Or.inr (Or.inr rfl))
  exact ⟨.selected hoff (hdrift₅.regs.trans hregs₄) hsws₅ hstatus',
    fun h => hdrift₅.locked (hlock₄ h), hdrift₅.quiet.allowed hok₄⟩

/-! ## The flash interface -/

/-- `set_flash_latency` on `ACR`. -/
def latencyBits (hclk : Nat) (acr : BitVec 32) : BitVec 32 :=
  match flashLatency hclk with
  | some cycles => acr &&& ~~~0x7#32 ||| BitVec.ofNat 32 cycles &&& 0x7#32
  | none => acr &&& ~~~0x7#32

/-- `set_flash_latency` on the registers. -/
def ClockRegs.latency (ρ : ClockRegs) (hclk : Nat) : ClockRegs :=
  { ρ with acr := latencyBits hclk ρ.acr }

/-- What `set_flash_latency` must be allowed to write: first the latency is cleared. -/
structure LatencyAllowed (ok : ClockRegs → BitVec 2 → Prop) (hclk : Nat) (s : ClockState) :
    Prop where
  clear : ∀ c, c = s.sws ∨ c = s.regs.sw → ok { s.regs with acr := s.regs.acr &&& ~~~0x7#32 } c
  set : ∀ c, c = s.sws ∨ c = s.regs.sw → ok (s.regs.latency hclk) c

theorem Wrote.allowed {ρ : ClockRegs} (h : Wrote ρ s s') (hsw : ρ.sw = s.regs.sw)
    (hρ : ∀ c, c = s.sws ∨ c = s.regs.sw → ok ρ c) : Allowed ok s' := by
  refine ⟨?_, ?_⟩
  · rw [h.regs]
    exact hρ _ h.sws
  · rw [h.regs]
    exact hρ _ (Or.inr hsw)

theorem wp_setFlashLatency {hclk : BitVec 32} (hok : Allowed ok s)
    (hallowed : LatencyAllowed ok hclk.toNat s) :
    (setFlashLatency hclk).wp (clockHardware ok) D
      (fun _ _ s' => Wrote (s.regs.latency hclk.toNat) s s' ∧ Allowed ok s') g s := by
  refine wp_seq (wp_clearBits rfl hok) fun _ _ s₁ hwrote => ?_
  have hregs : s₁.regs = { s.regs with acr := s.regs.acr &&& ~~~0x7#32 } := hwrote.regs
  have hok₁ : Allowed ok s₁ := hwrote.allowed rfl hallowed.clear
  have hall : ∀ {s₂}, Wrote (s.regs.latency hclk.toNat) s s₂ →
      Wrote (s.regs.latency hclk.toNat) s s₂ ∧ Allowed ok s₂ :=
    fun h => ⟨h, h.allowed rfl hallowed.set⟩
  -- The bits are cleared before they are set, and above 180 MHz they are not set.
  split
  · next cycles hcycles =>
    refine wp_mono (wp_setBits rfl hok₁) ?_
    rintro _ _ s₂ ⟨hregs₂, hcr₂, hsws₂⟩
    refine hall ⟨?_, hcr₂.trans hwrote.cr, ?_⟩
    · rw [hregs₂, hregs]
      simp only [ClockRegs.or, ClockRegs.latency, latencyBits, hcycles]
    · rcases hsws₂ with h | h
      · rw [h]
        exact hwrote.sws
      · rw [h, hregs]
        exact Or.inr rfl
  · next hnone =>
    refine hall ⟨?_, hwrote.cr, hwrote.sws⟩
    rw [hregs]
    simp only [ClockRegs.latency, latencyBits, hnone]

/-- The latency changes only in one of the two cases. -/
theorem wp_latencyIf {c : Prop} [Decidable c] {hclk : BitVec 32} (hok : Allowed ok s)
    (hallowed : c → LatencyAllowed ok hclk.toNat s) :
    (if c then setFlashLatency hclk else pure () : RccProc Unit).wp (clockHardware ok) D
      (fun _ _ s' => Wrote (if c then s.regs.latency hclk.toNat else s.regs) s s' ∧
        Allowed ok s') g s := by
  by_cases hc : c
  · simp only [if_pos hc]
    exact wp_setFlashLatency hok (hallowed hc)
  · simp only [if_neg hc]
    exact ⟨⟨rfl, rfl, Or.inl rfl⟩, hok⟩

/-! ## The report -/

theorem Drift.shown_pllcfgr {s₁ : ClockState} (h : Drift s s₁) :
    s₁.shown .pllcfgr = s.regs.pllcfgr := by
  rw [← h.regs]
  rfl

theorem wp_readPllFreq (hok : Allowed ok s) :
    readPllFreq.wp (clockHardware ok) D
      (fun v _ s' => Drift s s' ∧ v = pllBits (field s.regs.pllcfgr 22 1)
        (field s.regs.pllcfgr 0 6) (field s.regs.pllcfgr 6 9) (field s.regs.pllcfgr 16 2)) g s := by
  unfold readPllFreq
  rw [rccPllcfgrPllmMask_eq, rccPllcfgrPllnMask_eq, rccPllcfgrPllpMask_eq, rccPllcfgrPllsrcMask_eq]
  refine wp_bind.2 (wp_readReg rfl hok fun s₁ h₁ => ?_)
  refine wp_bind.2 (wp_readReg rfl (h₁.quiet.allowed hok) fun s₂ h₂ => ?_)
  have h₂' := h₁.trans h₂
  refine wp_bind.2 (wp_readReg rfl (h₂'.quiet.allowed hok) fun s₃ h₃ => ?_)
  have h₃' := h₂'.trans h₃
  refine wp_bind.2 (wp_readReg rfl (h₃'.quiet.allowed hok) fun s₄ h₄ => ?_)
  have h₄' := h₃'.trans h₄
  rw [h₁.shown_pllcfgr, h₂'.shown_pllcfgr, h₃'.shown_pllcfgr, h₄'.shown_pllcfgr]
  exact ⟨h₄', rfl⟩

theorem wp_readSysclk {source : BitVec 2} {unset : BitVec 32} (hok : Allowed ok s) :
    (readSysclk (source.setWidth 32) unset).wp (clockHardware ok) D
      (fun v _ s' => Drift s s' ∧ v = s.regs.reportSysclk source unset) g s := by
  have hcodes : source = 0#2 ∨ source = 1#2 ∨ source = 2#2 ∨ source = 3#2 := by
    revert source
    decide
  rcases hcodes with rfl | rfl | rfl | rfl
  · exact ⟨Drift.refl s, rfl⟩
  · exact ⟨Drift.refl s, rfl⟩
  · exact wp_readPllFreq hok
  · exact ⟨Drift.refl s, rfl⟩

/-- The clock in use is looked up once, at the start. -/
theorem wp_getClockFrequencies {freq : RccFrequencies} (hok : Allowed ok s) :
    (getClockFrequencies freq).wp (clockHardware ok) D
      (fun f _ s' => ∃ s₁, Drift s s₁ ∧ Drift s₁ s' ∧
        f = s.regs.report s₁.sws freq.sysclkFreq) g s := by
  unfold getClockFrequencies
  rw [rccCfgrSws_eq, rccCfgrHpreMask_eq, rccCfgrPpre1Mask_eq, rccCfgrPpre2Mask_eq]
  refine wp_bind.2 (wp_readReg rfl hok fun s₁ h₁ => ?_)
  have hsource : (s₁.shown .cfgr &&& fieldMask 32 2 2) >>> 2 = s₁.sws.setWidth 32 :=
    field_shown_sws s₁
  dsimp only
  rw [hsource]
  refine wp_seq (wp_readSysclk (h₁.quiet.allowed hok)) ?_
  rintro sysclk _ s₂ ⟨h₂, hsysclk⟩
  refine wp_bind.2 (wp_readReg rfl ((h₁.trans h₂).quiet.allowed hok) fun s₃ h₃ => ?_)
  have h₃' := h₂.trans h₃
  refine wp_bind.2 (wp_readReg rfl ((h₁.trans h₃').quiet.allowed hok) fun s₄ h₄ => ?_)
  have h₄' := h₃'.trans h₄
  refine wp_bind.2 (wp_readReg rfl ((h₁.trans h₄').quiet.allowed hok) fun s₅ h₅ => ?_)
  have h₅' := h₄'.trans h₅
  refine ⟨s₁, h₁, h₅', ?_⟩
  -- Four reads of `CFGR`, between which only `SWS` may change.
  have hhpre : (s₃.shown .cfgr &&& fieldMask 32 4 4) >>> 4 = field s.regs.cfgr 4 4 := by
    rw [← (h₁.trans h₃').regs]
    exact field_shown_cfgr s₃ (by decide) (by decide)
  have hppre1 : (s₄.shown .cfgr &&& fieldMask 32 10 3) >>> 10 = field s.regs.cfgr 10 3 := by
    rw [← (h₁.trans h₄').regs]
    exact field_shown_cfgr s₄ (by decide) (by decide)
  have hppre2 : (s₅.shown .cfgr &&& fieldMask 32 13 3) >>> 13 = field s.regs.cfgr 13 3 := by
    rw [← (h₁.trans h₅').regs]
    exact field_shown_cfgr s₅ (by decide) (by decide)
  rw [hhpre, hppre1, hppre2, hsysclk, h₁.regs]
  rfl

/-! ## The bus dividers -/

/-- A step of `set_bus_dividers_rcc`: `SW` is not touched. -/
structure Dividing (ρ : ClockRegs) (s s' : ClockState) : Prop where
  regs : s'.regs = ρ
  pllcfgr : ρ.pllcfgr = s.regs.pllcfgr
  acr : ρ.acr = s.regs.acr
  sw : ρ.sw = s.regs.sw
  cr : s'.cr = s.cr
  sws : s'.sws = s.sws ∨ s'.sws = s.regs.sw

/-- What `set_bus_dividers_rcc` must be allowed to write. -/
def DivideAllowed (ok : ClockRegs → BitVec 2 → Prop) (s : ClockState) : Prop :=
  ∀ ρ c, ρ.pllcfgr = s.regs.pllcfgr → ρ.acr = s.regs.acr → ρ.sw = s.regs.sw →
    (c = s.sws ∨ c = s.regs.sw) → ok ρ c

section Dividing

variable {ρ ρ' : ClockRegs} {s₁ : ClockState} {mask : BitVec 32}

theorem Dividing.allowed (h : Dividing ρ s s') (hallowed : DivideAllowed ok s) : Allowed ok s' := by
  refine ⟨?_, ?_⟩
  · rw [h.regs]
    exact hallowed _ _ h.pllcfgr h.acr h.sw h.sws
  · rw [h.regs, h.sw]
    exact hallowed _ _ h.pllcfgr h.acr h.sw (Or.inr rfl)

theorem Dividing.wrote (h : Dividing ρ s s₁) (hwrote : Wrote ρ' s₁ s')
    (hpllcfgr : ρ'.pllcfgr = ρ.pllcfgr) (hacr : ρ'.acr = ρ.acr) (hsw : ρ'.sw = ρ.sw) :
    Dividing ρ' s s' := by
  refine ⟨hwrote.regs, hpllcfgr.trans h.pllcfgr, hacr.trans h.acr, hsw.trans h.sw,
    hwrote.cr.trans h.cr, ?_⟩
  rcases hwrote.sws with hsws | hsws
  · rw [hsws]
    exact h.sws
  · rw [hsws, h.regs, h.sw]
    exact Or.inr rfl

/-- A prescaler is written above `SW`. -/
theorem wp_divideSet {x : BitVec 32} {k : Nat} (hk : 2 ≤ k) (hallowed : DivideAllowed ok s)
    (h : Dividing ρ s s₁) :
    (setBits .cfgr (x <<< k)).wp (clockHardware ok) D
      (fun _ _ s' => Dividing (ρ.or .cfgr (x <<< k)) s s') g s₁ := by
  refine wp_mono (wp_setBits rfl (h.allowed hallowed)) ?_
  rintro _ _ s₂ hwrote
  rw [h.regs] at hwrote
  refine h.wrote hwrote rfl rfl ?_
  unfold ClockRegs.sw
  rw [ClockRegs.field_or_cfgr (by decide), field_shiftLeft_above hk, BitVec.or_zero]

theorem wp_setBusDividersRcc {busConf : RccBusConfig} (hok : Allowed ok s)
    (hallowed : DivideAllowed ok s) :
    (setBusDividersRcc busConf).wp (clockHardware ok) D
      (fun _ _ s' => Dividing (s.regs.divide busConf) s s') g s := by
  refine wp_seq (wp_clearBits rfl hok) fun _ _ s₁ hwrote => ?_
  have h₁ : Dividing (s.regs.andNot .cfgr (rccCfgrPpre1Mask ||| rccCfgrPpre2Mask |||
      rccCfgrHpreMask ||| rccCfgrRtcpreMask)) s s₁ := by
    refine ⟨hwrote.regs, rfl, rfl, ?_, hwrote.cr, hwrote.sws⟩
    unfold ClockRegs.sw
    rw [ClockRegs.field_andNot_cfgr_apart (by decide) (by decide)]
  refine wp_seq (wp_divideSet (by decide) hallowed h₁) fun _ _ s₂ h₂ => ?_
  refine wp_seq (wp_divideSet (by decide) hallowed h₂) fun _ _ s₃ h₃ => ?_
  refine wp_seq (wp_divideSet (by decide) hallowed h₃) fun _ _ s₄ h₄ => ?_
  exact wp_divideSet (by decide) hallowed h₄

end Dividing

/-! ## `switch_to_pll_rcc` -/

/-- The registers after the latency was raised for a clock faster than the one reported. -/
def ClockRegs.raised (ρ : ClockRegs) (config : RccPllConfig) (current : BitVec 32) : ClockRegs :=
  if current < targetSysclk config then ρ.latency (targetSysclk config).toNat else ρ

def ClockRegs.lowered (ρ : ClockRegs) (config : RccPllConfig) (current : BitVec 32) : ClockRegs :=
  if targetSysclk config < current then ρ.latency (targetSysclk config).toNat else ρ

/-- The latency was raised, if it had to be; `source` was in use when the frequency was read. -/
structure Raised (config : RccPllConfig) (source : BitVec 2) (current : BitVec 32)
    (s s' : ClockState) : Prop where
  found : source = s.sws ∨ source = s.regs.sw
  reported : ∃ unset, current = s.regs.reportSysclk source unset
  regs : s'.regs = s.regs.raised config current
  sws : s'.sws = source ∨ s'.sws = s.regs.sw

/-- What `switch_to_pll_rcc` must be allowed to write. -/
structure SwitchAllowed (ok : ClockRegs → BitVec 2 → Prop) (config : RccPllConfig)
    (s : ClockState) : Prop where
  raise : ∀ source unset s₁, (source = s.sws ∨ source = s.regs.sw) →
    s.regs.reportSysclk source unset < targetSysclk config → s₁.regs = s.regs →
    (s₁.sws = source ∨ s₁.sws = s.regs.sw) →
      LatencyAllowed ok (targetSysclk config).toNat s₁
  start : ∀ source current s₁, Raised config source current s s₁ → (Locked s → Locked s₁) →
    s₁.cr &&& rccCrPllon = 0#32 → StartAllowed ok config s₁
  lower : ∀ source current s₁ s₂, Raised config source current s s₁ → (Locked s → Locked s₁) →
    s₁.cr &&& rccCrPllon = 0#32 → targetSysclk config < current →
    s₂.regs = (config.configured s₁.regs).select rccPll → s₂.sws = pllSelected →
      LatencyAllowed ok (targetSysclk config).toNat s₂

/-- How far `switch_to_pll_rcc` got, from the state in which the latency was raised. -/
inductive PllSwitched (config : RccPllConfig) (current : BitVec 32) (status : Int)
    (s s' : ClockState) : Prop where
  | refused (hstatus : status ≠ 0) (quiet : Quiet s s')
  | programmed (hstatus : status ≠ 0) (off : s.cr &&& rccCrPllon = 0#32)
      (regs : s'.regs = config.configured s.regs) (sws : s'.sws = s.sws ∨ s'.sws = s.regs.sw)
  | selected (hstatus : status ≠ 0) (off : s.cr &&& rccCrPllon = 0#32)
      (regs : s'.regs = (config.configured s.regs).select rccPll)
      (sws : s'.sws = s.sws ∨ s'.sws = s.regs.sw ∨ s'.sws = 0#2 ∨ s'.sws = pllSelected)
  | switched (hstatus : status = 0) (off : s.cr &&& rccCrPllon = 0#32)
      (regs : s'.regs = ((config.configured s.regs).select rccPll).lowered config current)
      (sws : s'.sws = pllSelected)

section Latency

variable (ρ : ClockRegs) (config : RccPllConfig) (current : BitVec 32)

theorem ClockRegs.cfgr_raised : (ρ.raised config current).cfgr = ρ.cfgr := by
  unfold raised
  split
  · rfl
  · rfl

theorem ClockRegs.pllcfgr_raised : (ρ.raised config current).pllcfgr = ρ.pllcfgr := by
  unfold raised
  split
  · rfl
  · rfl

theorem ClockRegs.cfgr_lowered : (ρ.lowered config current).cfgr = ρ.cfgr := by
  unfold lowered
  split
  · rfl
  · rfl

theorem ClockRegs.pllcfgr_lowered : (ρ.lowered config current).pllcfgr = ρ.pllcfgr := by
  unfold lowered
  split
  · rfl
  · rfl

theorem ClockRegs.sw_raised : (ρ.raised config current).sw = ρ.sw := by
  unfold sw
  rw [cfgr_raised]

theorem ClockRegs.sw_lowered : (ρ.lowered config current).sw = ρ.sw := by
  unfold sw
  rw [cfgr_lowered]

end Latency

theorem Wrote.locked {ρ : ClockRegs} (h : Wrote ρ s s') (hsw : ρ.sw = s.regs.sw)
    (hlock : Locked s) : Locked s' := by
  intro huse
  rw [h.cr]
  apply hlock
  rcases huse with hsel | hsws
  · rw [h.regs, hsw] at hsel
    exact Or.inl hsel
  · rcases h.sws with hsame | hsame
    · exact Or.inr (hsame ▸ hsws)
    · exact Or.inl (hsame ▸ hsws)

section Switching

variable {config : RccPllConfig} {source : BitVec 2} {current : BitVec 32} {s₁ : ClockState}

theorem Raised.quiet (h : Raised config source current s s₁) (hquiet : Quiet s₁ s') :
    Raised config source current s s' := by
  refine ⟨h.found, h.reported, hquiet.regs.trans h.regs, ?_⟩
  rcases hquiet.sws with hsws | hsws
  · rw [hsws]
    exact h.sws
  · rw [hsws, h.regs, ClockRegs.sw_raised]
    exact Or.inr rfl

theorem PllStarted.switched {status : Int} (h : PllStarted config status s s')
    (hstatus : status ≠ 0) : PllSwitched config current status s s' := by
  cases h with
  | refused _ quiet => exact .refused hstatus quiet
  | programmed _ off regs sws => exact .programmed hstatus off regs sws
  | selected off regs sws _ => exact .selected hstatus off regs sws

/-- What is lowered once the PLL is in use. -/
theorem wp_latencyIf_pll {ρ : ClockRegs} {current : BitVec 32} (hok : Allowed ok s)
    (hregs : s.regs = ρ.select rccPll) (hsws : s.sws = pllSelected)
    (hallowed : targetSysclk config < current →
      LatencyAllowed ok (targetSysclk config).toNat s) :
    (if targetSysclk config < current then setFlashLatency (targetSysclk config)
      else pure () : RccProc Unit).wp (clockHardware ok) D
      (fun _ _ s' => s'.regs = (ρ.select rccPll).lowered config current ∧
        s'.sws = pllSelected ∧ (Locked s → Locked s') ∧ Allowed ok s') g s := by
  refine wp_mono (wp_latencyIf hok hallowed) ?_
  rintro _ _ s' ⟨hwrote, hok'⟩
  have hsw : s.regs.sw = pllSelected := by
    rw [hregs]
    exact ClockRegs.sw_select _ (by decide)
  have hsws' : s'.sws = pllSelected := by
    rcases hwrote.sws with h | h
    · exact h.trans hsws
    · exact h.trans hsw
  refine ⟨?_, hsws', hwrote.locked ?_, hok'⟩
  · rw [hwrote.regs, hregs]
    rfl
  · split
    · rfl
    · rfl

/-- `switch_to_pll_rcc` stops early, or raises the latency and then goes on. -/
theorem wp_switchToPllRcc (hok : Allowed ok s) (hallowed : SwitchAllowed ok config s) :
    (switchToPllRcc (some config)).wp (clockHardware ok) D
      (fun status _ s' => ((status ≠ 0 ∧ Quiet s s') ∨
        ∃ source current s₁, Raised config source current s s₁ ∧ (Locked s → Locked s₁) ∧
          PllSwitched config current status s₁ s') ∧
        (Locked s → Locked s') ∧ Allowed ok s') g s := by
  unfold switchToPllRcc
  refine wp_seq (wp_quiet (emits_startPllSource config) hok) ?_
  rintro status _ s₀ ⟨hquiet₀, hlock₀⟩
  split
  · next hstatus => exact ⟨Or.inl ⟨hstatus, hquiet₀⟩, hlock₀, hquiet₀.allowed hok⟩
  refine wp_seq (wp_reads (emits_perform trivial) (hquiet₀.allowed hok)) ?_
  intro unset _ s₁ hdrift₁
  have hquiet₁ := hquiet₀.trans hdrift₁.quiet
  -- The report that is compared with the target is of the clock in use at some time in between.
  refine wp_seq (wp_getClockFrequencies (hquiet₁.allowed hok)) ?_
  rintro freq _ s₃ ⟨s₂, hdrift₂, hdrift₃, rfl⟩
  have hquiet₂ := hquiet₁.trans hdrift₂.quiet
  have hquiet₃ := hquiet₂.trans hdrift₃.quiet
  have hsws₃ : s₃.sws = s₂.sws ∨ s₃.sws = s.regs.sw := by
    rcases hdrift₃.sws with h | h
    · exact Or.inl h
    · rw [hquiet₂.regs] at h
      exact Or.inr h
  have hcurrent : (s₁.regs.report s₂.sws unset).sysclkFreq = s.regs.reportSysclk s₂.sws unset := by
    rw [hquiet₁.regs]
    rfl
  dsimp only
  rw [hcurrent]
  refine wp_seq (wp_latencyIf (hquiet₃.allowed hok) fun hlt =>
    hallowed.raise s₂.sws unset s₃ hquiet₂.sws hlt hquiet₃.regs hsws₃) ?_
  rintro _ _ s₄ ⟨hwrote, hok₄⟩
  rw [hquiet₃.regs] at hwrote
  have hraised : Raised config s₂.sws (s.regs.reportSysclk s₂.sws unset) s s₄ := by
    refine ⟨hquiet₂.sws, ⟨unset, rfl⟩, hwrote.regs, ?_⟩
    rcases hwrote.sws with h | h
    · rw [h]
      exact hsws₃
    · rw [h, hquiet₃.regs]
      exact Or.inr rfl
  -- Raising the latency leaves the clock selected alone.
  have hlock₄ : Locked s → Locked s₄ := by
    intro hlock
    refine hwrote.locked ?_ (hdrift₃.locked (hdrift₂.locked (hdrift₁.locked (hlock₀ hlock))))
    rw [hquiet₃.regs]
    exact ClockRegs.sw_raised _ config _
  refine wp_seq (wp_quiet emits_stopPll hok₄) ?_
  rintro status _ s₅ ⟨hquiet₅, hlock₅⟩
  have hraised₅ := hraised.quiet hquiet₅
  have hlock₅' : Locked s → Locked s₅ := fun hlock => hlock₅ (hlock₄ hlock)
  have hok₅ := hquiet₅.allowed hok₄
  split
  · next hstatus =>
    exact ⟨Or.inr ⟨_, _, s₅, hraised₅, hlock₅', .refused hstatus (Drift.refl s₅).quiet⟩, hlock₅',
      hok₅⟩
  refine wp_seq (wp_startPll hok₅ fun hoff => hallowed.start _ _ s₅ hraised₅ hlock₅' hoff) ?_
  rintro status _ s₆ ⟨hstarted, hlock₆, hok₆⟩
  have hlock₆' : Locked s → Locked s₆ := fun hlock => hlock₆ (hlock₅' hlock)
  split
  · next hstatus =>
    exact ⟨Or.inr ⟨_, _, s₅, hraised₅, hlock₅', hstarted.switched hstatus⟩, hlock₆', hok₆⟩
  next hstatus =>
  cases hstarted with
  | refused hne _ => exact absurd hne hstatus
  | programmed hne _ _ _ => exact absurd hne hstatus
  | selected hoff hregs _ hsws =>
      have hsws₆ := hsws (not_not.1 hstatus)
      refine wp_seq (wp_latencyIf_pll hok₆ hregs hsws₆ fun hlt =>
        hallowed.lower _ _ s₅ s₆ hraised₅ hlock₅' hoff hlt hregs hsws₆) ?_
      rintro _ _ s₇ ⟨hlower, hsws₇, hlock₇, hok₇⟩
      exact ⟨Or.inr ⟨_, _, s₅, hraised₅, hlock₅', .switched rfl hoff hlower hsws₇⟩,
        fun hlock => hlock₇ (hlock₆' hlock), hok₇⟩

/-- Of the ways in which it can end only one has the status 0. -/
theorem exists_switched {P : ClockState → Prop}
    (h : ((0 : Int) ≠ 0 ∧ Quiet s s') ∨
      ∃ source current s₁, Raised config source current s s₁ ∧ P s₁ ∧
        PllSwitched config current 0 s₁ s') :
    ∃ source current s₁, Raised config source current s s₁ ∧
      s'.regs = ((config.configured s₁.regs).select rccPll).lowered config current ∧
      s'.sws = pllSelected := by
  rcases h with ⟨hne, -⟩ | ⟨source, current, s₁, hraised, -, hswitched⟩
  · exact absurd rfl hne
  refine ⟨source, current, s₁, hraised, ?_⟩
  cases hswitched with
  | refused hne => exact absurd rfl hne
  | programmed hne => exact absurd rfl hne
  | selected hne => exact absurd rfl hne
  | switched _ _ hregs hsws => exact ⟨hregs, hsws⟩

theorem ClockRegs.pllcfgr_switched {ρ : ClockRegs} {current : BitVec 32} :
    (((config.configured ρ).select rccPll).lowered config current).pllcfgr =
      config.encode ρ.pllcfgr := by
  rw [pllcfgr_lowered]
  rfl

end Switching

/-! ## `setup_system_config_rcc` -/

/-- The switch starts from the same clocks, and the bus dividers follow it. -/
theorem wp_setupSystemConfigRcc {config : RccSystemConfig} {Q : Int → ClockState → Prop}
    (hok : Allowed ok s)
    (hswitch : ∀ s₀, Quiet s s₀ → (Locked s → Locked s₀) → Allowed ok s₀ →
      (switchClock config).wp (clockHardware ok) D (fun status g' s' => (status ≠ 0 → Q status s') ∧
        (status = 0 → (setBusDividersIfAny config.busConfig).wp (clockHardware ok) D
          (fun _ _ s'' => Q 0 s'') g' s')) g s₀) :
    (setupSystemConfigRcc (some config)).wp (clockHardware ok) D (fun status _ s' => Q status s')
      g s := by
  unfold setupSystemConfigRcc
  refine wp_seq (wp_quiet emits_disableAllGpioClocksRcc hok) ?_
  rintro _ _ s₁ ⟨hquiet₁, hlock₁⟩
  have hok₁ := hquiet₁.allowed hok
  refine wp_seq (wp_quiet (emits_setBits rfl) hok₁) ?_
  rintro _ _ s₂ ⟨hquiet₂, hlock₂⟩
  refine wp_seq (hswitch s₂ (hquiet₁.trans hquiet₂) (fun hlock => hlock₂ (hlock₁ hlock))
    (hquiet₂.allowed hok₁)) ?_
  rintro status g₃ s₃ ⟨hfailed, hdone⟩
  refine wp_guard hfailed fun hok => ?_
  exact wp_seq (hdone (not_not.1 hok)) fun _ _ s₄ hpost => hpost

/-! ## Nothing asked -/

/-- Nothing is asked of the registers. -/
def anyClock (_ : ClockRegs) (_ : BitVec 2) : Prop := True

theorem allowed_anyClock (s : ClockState) : Allowed anyClock s := ⟨trivial, trivial⟩

theorem switchAllowed_anyClock (config : RccPllConfig) (s : ClockState) :
    SwitchAllowed anyClock config s where
  raise _ _ _ _ _ _ _ := ⟨fun _ _ => trivial, fun _ _ => trivial⟩
  start _ _ _ _ _ _ :=
    ⟨fun _ _ _ => trivial, fun _ _ => ⟨fun _ _ => trivial, fun _ _ => trivial⟩⟩
  lower _ _ _ _ _ _ _ _ _ _ := ⟨fun _ _ => trivial, fun _ _ => trivial⟩

/-- The PLL as the system clock. -/
def pllSystem (pll : RccPllConfig) (busConfig : Option RccBusConfig) : RccSystemConfig where
  source := rccPll
  pllConfig := some pll
  busConfig := busConfig

end Core
end SdioFat32
