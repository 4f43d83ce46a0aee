import SdioFat32.Cells.BitField
import SdioFat32.Core.Rcc

/-!
# RccHardware — what the clock registers answer

`SWS` follows `SW` at any time; the ready flags and the oscillator bits read as anything, so every
wait may end in every way.  The one thing the hardware refuses is to switch the PLL off while it
is the system clock or selected to become it: `PLLON` then stays set.

`ok` is what is asked of the registers and of the clock in use before every event; a procedure that
writes none of these registers keeps it (`wp_quiet`).
-/

namespace SdioFat32
namespace Core

open Effects Cells Proc

/-! ## Registers and frequencies -/

/-- The registers that decide about the clocks. -/
structure ClockRegs where
  pllcfgr : BitVec 32
  cfgr : BitVec 32
  acr : BitVec 32
  deriving DecidableEq

structure ClockState where
  regs : ClockRegs
  cr : BitVec 32
  /-- The system clock in use. -/
  sws : BitVec 2
  deriving DecidableEq

/-- The system clock selected. -/
def ClockRegs.sw (ρ : ClockRegs) : BitVec 2 := (field ρ.cfgr 0 2).setWidth 2

def pllSelected : BitVec 2 := 2#2

/-- The output of the PLL in Hz, over the naturals. -/
def pllOutput (source pllm plln pllp : Nat) : Nat :=
  (if source = 0 then 16000000 else 25000000) / pllm * plln / (2 * (pllp + 1))

def ClockRegs.pllFreq (ρ : ClockRegs) : Nat :=
  pllOutput (field ρ.pllcfgr 22 1).toNat (field ρ.pllcfgr 0 6).toNat (field ρ.pllcfgr 6 9).toNat
    (field ρ.pllcfgr 16 2).toNat

/-- The frequency of a clock; there is no fourth one. -/
def ClockRegs.freqOf (ρ : ClockRegs) (source : BitVec 2) : Nat :=
  if source = 0#2 then 16000000
  else if source = 1#2 then 25000000
  else if source = pllSelected then ρ.pllFreq
  else 0

/-- The system frequency selected. -/
def ClockRegs.sysclk (ρ : ClockRegs) : Nat := ρ.freqOf ρ.sw

def RccPllConfig.output (config : RccPllConfig) : Nat :=
  pllOutput config.source.toNat config.pllm.toNat config.plln.toNat config.pllp.toNat

/-- The ranges of a PLL configuration. -/
structure RccPllConfig.InRange (config : RccPllConfig) : Prop where
  pllm_pos : 2 ≤ config.pllm.toNat
  pllm_le : config.pllm.toNat ≤ 63
  plln_pos : 64 ≤ config.plln.toNat
  plln_le : config.plln.toNat ≤ 432
  pllp_le : config.pllp.toNat ≤ 3
  source : config.source = 0#8 ∨ config.source = 1#8

/-! ## The environment -/

/-- The three registers among those of the driver. -/
def RccReg.decides : RccReg → Bool
  | .pllcfgr => true
  | .cfgr => true
  | .flashAcr => true
  | _ => false

def swsMask : BitVec 32 := rccCfgrSws 3#32

/-- A register as it reads: `SWS` is the clock in use. -/
def ClockState.shown (s : ClockState) : RccReg → BitVec 32
  | .pllcfgr => s.regs.pllcfgr
  | .cfgr => s.regs.cfgr &&& ~~~swsMask ||| s.sws.setWidth 32 <<< 2
  | .flashAcr => s.regs.acr
  | _ => 0#32

/-- A register is written; `SWS` is not, being read-only. -/
def ClockRegs.put (ρ : ClockRegs) (r : RccReg) (v : BitVec 32) : ClockRegs :=
  match r with
  | .pllcfgr => { ρ with pllcfgr := v }
  | .cfgr => { ρ with cfgr := v &&& ~~~swsMask }
  | .flashAcr => { ρ with acr := v }
  | _ => ρ

def ClockState.follow (s : ClockState) : ClockState := { s with sws := s.regs.sw }

def ClockState.pllInUse (s : ClockState) : Prop := s.regs.sw = pllSelected ∨ s.sws = pllSelected

instance (s : ClockState) : Decidable s.pllInUse := inferInstanceAs (Decidable (_ ∨ _))

def ClockState.writeCr (s : ClockState) (v : BitVec 32) : ClockState :=
  { s with cr := if s.pllInUse then v ||| s.cr &&& rccCrPllon else v }

/-- The clock in use may have become the one selected. -/
def Drift (s s' : ClockState) : Prop := s' = s ∨ s' = s.follow

def clockHardware (ok : ClockRegs → BitVec 2 → Prop) :
    Env RccEvent RccEvent.Response ClockState where
  req s _ := ok s.regs s.sws
  step s e r s' :=
    ∃ s₁, Drift s s₁ ∧
      match e, r with
      | .read .cr, (v : BitVec 32) => v &&& rccCrPllon = s₁.cr &&& rccCrPllon ∧ s' = s₁
      | .read r, (v : BitVec 32) => (r.decides = true → v = s₁.shown r) ∧ s' = s₁
      | .write .cr v, _ => s' = s₁.writeCr v
      | .write r v, _ => s' = { s₁ with regs := s₁.regs.put r v }
      | .indeterminate, _ => s' = s₁

variable {ok : ClockRegs → BitVec 2 → Prop} {D : ClockState → Prop} {s s' s₁ s₂ : ClockState}
  {α : Type}

/-- What is asked of the registers does not change what they do. -/
theorem reaches_reask {ok ok' : ClockRegs → BitVec 2 → Prop}
    {p q : Prog RccEvent RccEvent.Response α} (h : Reaches (clockHardware ok) p s q s') :
    Reaches (clockHardware ok') p s q s' := by
  induction h with
  | here p s => exact .here p s
  | op hstep _ ih => exact .op hstep ih

theorem runs_reask {ok ok' : ClockRegs → BitVec 2 → Prop} {p : Prog RccEvent RccEvent.Response α}
    {a : α} (h : Runs (clockHardware ok) p s a s') : Runs (clockHardware ok') p s a s' := by
  induction h with
  | ret a s => exact .ret a s
  | op hstep _ ih => exact .op hstep ih

theorem Drift.refl (s : ClockState) : Drift s s := Or.inl rfl

theorem Drift.regs (h : Drift s s') : s'.regs = s.regs := by
  rcases h with rfl | rfl
  · rfl
  · rfl

theorem Drift.cr (h : Drift s s') : s'.cr = s.cr := by
  rcases h with rfl | rfl
  · rfl
  · rfl

theorem Drift.sws (h : Drift s s') : s'.sws = s.sws ∨ s'.sws = s.regs.sw := by
  rcases h with rfl | rfl
  · exact Or.inl rfl
  · exact Or.inr rfl

theorem Drift.trans (h : Drift s s₁) (h' : Drift s₁ s₂) : Drift s s₂ := by
  rcases h with rfl | rfl
  · exact h'
  · rcases h' with rfl | rfl
    · exact Or.inr rfl
    · exact Or.inr rfl

/-- What is asked holds whether or not the clock follows. -/
structure Allowed (ok : ClockRegs → BitVec 2 → Prop) (s : ClockState) : Prop where
  now : ok s.regs s.sws
  following : ok s.regs s.regs.sw

/-! ## Procedures that leave the registers alone -/

/-- The registers are the same, and the clock in use may have become the one selected. -/
structure Quiet (s s' : ClockState) : Prop where
  regs : s'.regs = s.regs
  sws : s'.sws = s.sws ∨ s'.sws = s.regs.sw

theorem Quiet.allowed (h : Quiet s s') (hok : Allowed ok s) : Allowed ok s' := by
  refine ⟨?_, ?_⟩
  · rw [h.regs]
    rcases h.sws with hsws | hsws
    · rw [hsws]
      exact hok.now
    · rw [hsws]
      exact hok.following
  · rw [h.regs]
    exact hok.following

/-- While the PLL is in use it is on. -/
def Locked (s : ClockState) : Prop := s.pllInUse → s.cr &&& rccCrPllon ≠ 0#32

theorem Drift.quiet (h : Drift s s') : Quiet s s' := ⟨h.regs, h.sws⟩

theorem Quiet.trans (h : Quiet s s₁) (h' : Quiet s₁ s₂) : Quiet s s₂ := by
  refine ⟨h'.regs.trans h.regs, ?_⟩
  rcases h'.sws with hsws | hsws
  · rw [hsws]
    exact h.sws
  · rw [hsws, h.regs]
    exact Or.inr rfl

theorem Quiet.pllInUse (h : Quiet s s') (huse : s'.pllInUse) : s.pllInUse := by
  rcases huse with hsw | hsws
  · rw [h.regs] at hsw
    exact Or.inl hsw
  · rcases h.sws with hsame | hsame
    · exact Or.inr (hsame ▸ hsws)
    · exact Or.inl (hsame ▸ hsws)

theorem Drift.locked (h : Drift s s') (hlock : Locked s) : Locked s' := by
  intro huse
  rw [h.cr]
  exact hlock (h.quiet.pllInUse huse)

theorem Locked.writeCr (hlock : Locked s) (v : BitVec 32) : Locked (s.writeCr v) := by
  intro huse
  have huse' : s.pllInUse := huse
  have hon := hlock huse'
  unfold ClockState.writeCr
  rw [if_pos huse']
  intro hzero
  apply hon
  apply BitVec.eq_of_getLsbD_eq
  intro i hi
  have hbit := congrArg (fun x => x.getLsbD i) hzero
  simp only [BitVec.getLsbD_and, BitVec.getLsbD_or, BitVec.getLsbD_zero] at hbit ⊢
  grind

/-- Reads, and writes to registers that do not decide about the clocks. -/
def QuietEvent : RccEvent → Prop
  | .write r _ => r.decides = false
  | _ => True

theorem QuietEvent.quiet {e : RccEvent} {r : e.Response} (he : QuietEvent e)
    (hstep : (clockHardware ok).step s e r s') : Quiet s s' ∧ (Locked s → Locked s') := by
  rcases hstep with ⟨s₁, hdrift, hstep⟩
  have hsame : ∀ {s₂}, s₂ = s₁ → Quiet s s₂ ∧ (Locked s → Locked s₂) := by
    rintro _ rfl
    exact ⟨hdrift.quiet, hdrift.locked⟩
  cases e with
  | read reg => cases reg <;> exact hsame hstep.2
  | write reg v =>
      cases reg with
      | pllcfgr => cases he
      | cfgr => cases he
      | flashAcr => cases he
      | cr =>
          have hwrite : s' = s₁.writeCr v := hstep
          subst hwrite
          exact ⟨⟨hdrift.regs, hdrift.sws⟩, fun hlock => (hdrift.locked hlock).writeCr v⟩
      | _ => exact hsame hstep
  | indeterminate => exact hsame hstep

/-- A procedure of such events keeps the registers. -/
theorem wp_quiet {p : RccProc α} (hp : p.Emits QuietEvent False) (hok : Allowed ok s) {g : Unit} :
    p.wp (clockHardware ok) D (fun _ _ s' => Quiet s s' ∧ (Locked s → Locked s')) g s := by
  refine wp_frame (I := fun s' => Quiet s s' ∧ (Locked s → Locked s')) hp ?_
    (fun _ hcut => hcut.elim) ⟨(Drift.refl s).quiet, id⟩
  rintro s₁ e ⟨hquiet, hlock⟩ he
  refine ⟨(hquiet.allowed hok).now, ?_⟩
  intro r s₂ hstep
  rcases he.quiet hstep with ⟨hquiet', hlock'⟩
  exact ⟨hquiet.trans hquiet', fun h => hlock' (hlock h)⟩

/-! ## Accesses -/

def ClockRegs.or (ρ : ClockRegs) (r : RccReg) (mask : BitVec 32) : ClockRegs :=
  match r with
  | .pllcfgr => { ρ with pllcfgr := ρ.pllcfgr ||| mask }
  | .cfgr => { ρ with cfgr := (ρ.cfgr ||| mask) &&& ~~~swsMask }
  | .flashAcr => { ρ with acr := ρ.acr ||| mask }
  | _ => ρ

def ClockRegs.andNot (ρ : ClockRegs) (r : RccReg) (mask : BitVec 32) : ClockRegs :=
  match r with
  | .pllcfgr => { ρ with pllcfgr := ρ.pllcfgr &&& ~~~mask }
  | .cfgr => { ρ with cfgr := ρ.cfgr &&& ~~~mask &&& ~~~swsMask }
  | .flashAcr => { ρ with acr := ρ.acr &&& ~~~mask }
  | _ => ρ

/-- The registers were written; nothing else happened. -/
structure Wrote (ρ : ClockRegs) (s s' : ClockState) : Prop where
  regs : s'.regs = ρ
  cr : s'.cr = s.cr
  sws : s'.sws = s.sws ∨ s'.sws = s.regs.sw

section Accesses

variable {g : Unit} {r : RccReg} {mask : BitVec 32}

/-- The bits of the clock in use lie under the mask. -/
theorem sws_and_mask (x : BitVec 2) : x.setWidth 32 <<< 2 &&& ~~~swsMask = 0#32 := by
  apply BitVec.eq_of_getLsbD_eq
  intro i hi
  simp only [swsMask, rccCfgrSws, BitVec.getLsbD_and, BitVec.getLsbD_not, BitVec.getLsbD_shiftLeft,
    BitVec.getLsbD_setWidth, BitVec.getLsbD_zero]
  by_cases hhigh : 2 ≤ i - 2
  · rw [BitVec.getLsbD_of_ge x _ hhigh]
    simp
  · by_cases hlow : i < 2
    · simp [hlow]
    · have hin : i = 2 ∨ i = 3 := by omega
      rcases hin with rfl | rfl
      · simp
      · simp

theorem wp_readCr {Q : BitVec 32 → Unit → ClockState → Prop} (hok : Allowed ok s)
    (h : ∀ (v : BitVec 32) s₁, Drift s s₁ → v &&& rccCrPllon = s₁.cr &&& rccCrPllon → Q v g s₁) :
    (readReg .cr).wp (clockHardware ok) D Q g s := by
  refine ⟨hok.now, ?_⟩
  rintro v s₂ ⟨s₁, hdrift, hv, hs⟩
  rw [hs]
  exact h v s₁ hdrift hv

theorem wp_readReg {Q : BitVec 32 → Unit → ClockState → Prop} (hr : r.decides = true)
    (hok : Allowed ok s) (h : ∀ s₁, Drift s s₁ → Q (s₁.shown r) g s₁) :
    (readReg r).wp (clockHardware ok) D Q g s := by
  refine ⟨hok.now, ?_⟩
  rintro v s₂ ⟨s₁, hdrift, hstep⟩
  have hread : v = s₁.shown r ∧ s₂ = s₁ := by
    cases r with
    | pllcfgr => exact ⟨hstep.1 rfl, hstep.2⟩
    | cfgr => exact ⟨hstep.1 rfl, hstep.2⟩
    | flashAcr => exact ⟨hstep.1 rfl, hstep.2⟩
    | _ => cases hr
  rw [hread.1, hread.2]
  exact h s₁ hdrift

theorem wp_writeReg {Q : Unit → Unit → ClockState → Prop} {v : BitVec 32}
    (hr : r.decides = true) (hok : Allowed ok s)
    (h : ∀ s₁, Drift s s₁ → Q () g { s₁ with regs := s.regs.put r v }) :
    (writeReg r v).wp (clockHardware ok) D Q g s := by
  refine ⟨hok.now, ?_⟩
  rintro _ s₂ ⟨s₁, hdrift, hstep⟩
  have hwrite : s₂ = { s₁ with regs := s₁.regs.put r v } := by
    cases r with
    | pllcfgr => exact hstep
    | cfgr => exact hstep
    | flashAcr => exact hstep
    | _ => cases hr
  rw [hwrite, hdrift.regs]
  exact h s₁ hdrift

theorem ClockRegs.put_or (hdrift : Drift s s₁) (hr : r.decides = true) :
    s.regs.put r (s₁.shown r ||| mask) = s.regs.or r mask := by
  cases r with
  | pllcfgr =>
      have hshown : s₁.shown .pllcfgr = s.regs.pllcfgr := by rw [← hdrift.regs]; rfl
      rw [hshown]
      rfl
  | flashAcr =>
      have hshown : s₁.shown .flashAcr = s.regs.acr := by rw [← hdrift.regs]; rfl
      rw [hshown]
      rfl
  | cfgr =>
      have hmasked : (s₁.shown .cfgr ||| mask) &&& ~~~swsMask =
          (s.regs.cfgr ||| mask) &&& ~~~swsMask := by
        have hbits := sws_and_mask s₁.sws
        unfold ClockState.shown
        rw [hdrift.regs]
        apply BitVec.eq_of_getLsbD_eq
        intro i hi
        have hbit := congrArg (fun x => x.getLsbD i) hbits
        simp only [BitVec.getLsbD_and, BitVec.getLsbD_or, BitVec.getLsbD_zero] at hbit ⊢
        grind
      unfold ClockRegs.put ClockRegs.or
      rw [hmasked]
  | _ => cases hr

theorem ClockRegs.put_andNot (hdrift : Drift s s₁) (hr : r.decides = true) :
    s.regs.put r (s₁.shown r &&& ~~~mask) = s.regs.andNot r mask := by
  cases r with
  | pllcfgr =>
      have hshown : s₁.shown .pllcfgr = s.regs.pllcfgr := by rw [← hdrift.regs]; rfl
      rw [hshown]
      rfl
  | flashAcr =>
      have hshown : s₁.shown .flashAcr = s.regs.acr := by rw [← hdrift.regs]; rfl
      rw [hshown]
      rfl
  | cfgr =>
      have hmasked : s₁.shown .cfgr &&& ~~~mask &&& ~~~swsMask =
          s.regs.cfgr &&& ~~~mask &&& ~~~swsMask := by
        have hbits := sws_and_mask s₁.sws
        unfold ClockState.shown
        rw [hdrift.regs]
        apply BitVec.eq_of_getLsbD_eq
        intro i hi
        have hbit := congrArg (fun x => x.getLsbD i) hbits
        simp only [BitVec.getLsbD_and, BitVec.getLsbD_or, BitVec.getLsbD_zero] at hbit ⊢
        grind
      unfold ClockRegs.put ClockRegs.andNot
      rw [hmasked]
  | _ => cases hr

theorem wp_setBits (hr : r.decides = true) (hok : Allowed ok s) :
    (setBits r mask).wp (clockHardware ok) D (fun _ _ s' => Wrote (s.regs.or r mask) s s') g s := by
  refine wp_bind.2 (wp_readReg hr hok fun s₁ hdrift => ?_)
  refine wp_writeReg hr (hdrift.quiet.allowed hok) fun s₂ hdrift' => ?_
  have hall := hdrift.trans hdrift'
  rw [hdrift.regs, ClockRegs.put_or hdrift hr]
  exact ⟨rfl, hall.cr, hall.sws⟩

theorem wp_clearBits (hr : r.decides = true) (hok : Allowed ok s) :
    (clearBits r mask).wp (clockHardware ok) D
      (fun _ _ s' => Wrote (s.regs.andNot r mask) s s') g s := by
  refine wp_bind.2 (wp_readReg hr hok fun s₁ hdrift => ?_)
  refine wp_writeReg hr (hdrift.quiet.allowed hok) fun s₂ hdrift' => ?_
  have hall := hdrift.trans hdrift'
  rw [hdrift.regs, ClockRegs.put_andNot hdrift hr]
  exact ⟨rfl, hall.cr, hall.sws⟩

end Accesses

end Core
end SdioFat32
