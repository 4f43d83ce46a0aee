import SdioFat32.Cells.Word
import SdioFat32.Effects.Machine

/-!
# ResetHandler — from reset to `main`

`Reset_Handler` of `startup_stm32f407vetx.s` copies the initial values of `.data` to RAM, fills
`.bss` with zeros and calls `main`.

* `Layout` — what the linker scripts make of the sections; `flashLayout` and `ramLayout` are the two
  scripts;
* `resetHandler` — the instructions, and `step` what each of them does;
* `main_reached` — the memory in which `main` begins.
-/

namespace SdioFat32
namespace Startup

open Cells Effects StateTransition

/-! ## The linker scripts -/

/-- The symbols of a linked program.  Sections begin and end at words. -/
structure Layout where
  sidata : BitVec 32
  sdata : BitVec 32
  dataWords : Nat
  sbss : BitVec 32
  bssWords : Nat
  estack : BitVec 32
  data_fits : sdata.toNat + 4 * dataWords < 2 ^ 32
  bss_fits : sbss.toNat + 4 * bssWords < 2 ^ 32
  /-- The initial values are where the section is, or away from it. -/
  image : sidata = sdata ∨ Apart sidata (4 * dataWords) sdata (4 * dataWords)
  apart : Apart sdata (4 * dataWords) sbss (4 * bssWords)

namespace Layout

variable (l : Layout)

def edata : BitVec 32 := nth l.sdata (4 * l.dataWords)
def ebss : BitVec 32 := nth l.sbss (4 * l.bssWords)

/-- An address of `.data`. -/
def InData (x : BitVec 32) : Prop := InRegion l.sdata (4 * l.dataWords) x

/-- An address of `.bss`. -/
def InBss (x : BitVec 32) : Prop := InRegion l.sbss (4 * l.bssWords) x

end Layout

def ramOrigin : Nat := 0x20000000
def ramLength : Nat := 128 * 1024
def flashOrigin : Nat := 0x8000000
def flashLength : Nat := 512 * 1024

/-- Two regions that do not overlap, by their addresses. -/
theorem apart_ofNat {a b n m : Nat} (ha : a + n ≤ 2 ^ 32) (hb : b + m ≤ 2 ^ 32)
    (h : a + n ≤ b ∨ b + m ≤ a) : Apart (BitVec.ofNat 32 a) n (BitVec.ofNat 32 b) m := by
  intro x hx hx'
  obtain ⟨i, hi, rfl⟩ := hx.exists_nth
  obtain ⟨k, hk, heq⟩ := hx'.exists_nth
  have hsum := congrArg BitVec.toNat heq
  simp only [nth, BitVec.toNat_add, BitVec.toNat_ofNat] at hsum
  omega

/-- `STM32F407VETX_FLASH.ld`: the values of `.data` lie at `load` in the flash, and `.bss` begins
`gap` bytes behind `.data`. -/
def flashLayout (load dataWords gap bssWords : Nat)
    (hflash : load + 4 * dataWords ≤ flashLength)
    (hram : 4 * dataWords + gap + 4 * bssWords ≤ ramLength) : Layout where
  sidata := BitVec.ofNat 32 (flashOrigin + load)
  sdata := BitVec.ofNat 32 ramOrigin
  dataWords := dataWords
  sbss := BitVec.ofNat 32 (ramOrigin + (4 * dataWords + gap))
  bssWords := bssWords
  estack := BitVec.ofNat 32 (ramOrigin + ramLength)
  data_fits := by
    unfold ramLength at hram
    simp only [ramOrigin, BitVec.toNat_ofNat]
    omega
  bss_fits := by
    unfold ramLength at hram
    simp only [ramOrigin, BitVec.toNat_ofNat]
    omega
  image := by
    unfold ramLength at hram
    unfold flashLength at hflash
    unfold ramOrigin flashOrigin
    exact Or.inr (apart_ofNat (by omega) (by omega) (Or.inl (by omega)))
  apart := by
    unfold ramLength at hram
    unfold ramOrigin
    exact apart_ofNat (by omega) (by omega) (Or.inl (by omega))

/-- `STM32F407VETX_RAM.ld`: everything is in RAM, and `.data` is where its values are. -/
def ramLayout (code dataWords gap bssWords : Nat)
    (hram : code + 4 * dataWords + gap + 4 * bssWords ≤ ramLength) : Layout where
  sidata := BitVec.ofNat 32 (ramOrigin + code)
  sdata := BitVec.ofNat 32 (ramOrigin + code)
  dataWords := dataWords
  sbss := BitVec.ofNat 32 (ramOrigin + (code + 4 * dataWords + gap))
  bssWords := bssWords
  estack := BitVec.ofNat 32 (ramOrigin + ramLength)
  data_fits := by
    unfold ramLength at hram
    simp only [ramOrigin, BitVec.toNat_ofNat]
    omega
  bss_fits := by
    unfold ramLength at hram
    simp only [ramOrigin, BitVec.toNat_ofNat]
    omega
  image := Or.inl rfl
  apart := by
    unfold ramLength at hram
    unfold ramOrigin
    exact apart_ofNat (by omega) (by omega) (Or.inl (by omega))

/-! ## Instructions -/

inductive Reg where
  | r0
  | r1
  | r2
  | r3
  | r4
  | sp

structure Regs where
  r0 : BitVec 32
  r1 : BitVec 32
  r2 : BitVec 32
  r3 : BitVec 32
  r4 : BitVec 32
  sp : BitVec 32

def Regs.get (regs : Regs) : Reg → BitVec 32
  | .r0 => regs.r0
  | .r1 => regs.r1
  | .r2 => regs.r2
  | .r3 => regs.r3
  | .r4 => regs.r4
  | .sp => regs.sp

def Regs.set (regs : Regs) (rd : Reg) (v : BitVec 32) : Regs :=
  match rd with
  | .r0 => { regs with r0 := v }
  | .r1 => { regs with r1 := v }
  | .r2 => { regs with r2 := v }
  | .r3 => { regs with r3 := v }
  | .r4 => { regs with r4 := v }
  | .sp => { regs with sp := v }

inductive Label where
  | resetHandler
  | copyDataInit
  | loopCopyDataInit
  | fillZerobss
  | loopFillZerobss
  deriving DecidableEq

/-- A line of the source: a label or an instruction. -/
inductive Line where
  | label (l : Label)
  /-- `ldr rd, =symbol` -/
  | ldrSymbol (rd : Reg) (address : BitVec 32)
  | movs (rd : Reg) (imm : BitVec 32)
  /-- `ldr rt, [rn, rm]` -/
  | ldr (rt rn rm : Reg)
  /-- `str rt, [rn, rm]` -/
  | strIndexed (rt rn rm : Reg)
  /-- `str rt, [rn]` -/
  | str (rt rn : Reg)
  | adds (rd rn rm : Reg)
  | addsImm (rd rn : Reg) (imm : BitVec 32)
  | cmp (rn rm : Reg)
  | b (l : Label)
  | bcc (l : Label)
  /-- `bl main` -/
  | blMain
  | bxLr

/-- The processor.  Of the flags only the carry is read. -/
structure Cpu where
  pc : Nat
  regs : Regs
  carry : Bool
  mem : Memory 32 (BitVec 8)

/-- The line of a label. -/
def lineOf (l : Label) : List Line → Nat
  | [] => 0
  | .label l' :: code => if l' = l then 0 else lineOf l code + 1
  | _ :: code => lineOf l code + 1

namespace Cpu

def next (cpu : Cpu) : Cpu := { cpu with pc := cpu.pc + 1 }

def load (cpu : Cpu) (rd : Reg) (v : BitVec 32) : Cpu :=
  { cpu with pc := cpu.pc + 1, regs := cpu.regs.set rd v }

/-- An addition sets the carry. -/
def add (cpu : Cpu) (rd : Reg) (a b : BitVec 32) : Cpu :=
  { cpu.load rd (a + b) with carry := decide (2 ^ 32 ≤ a.toNat + b.toNat) }

def store (cpu : Cpu) (addr v : BitVec 32) : Cpu :=
  { cpu with pc := cpu.pc + 1, mem := cpu.mem.storeWord addr v }

end Cpu

/-- What a line does.  With the call of `main` the handler is at its end. -/
def exec (code : List Line) (cpu : Cpu) : Line → Option Cpu
  | .label _ => some cpu.next
  | .ldrSymbol rd address => some (cpu.load rd address)
  | .movs rd imm => some (cpu.load rd imm)
  | .ldr rt rn rm => some (cpu.load rt (cpu.mem.word (cpu.regs.get rn + cpu.regs.get rm)))
  | .strIndexed rt rn rm =>
      some (cpu.store (cpu.regs.get rn + cpu.regs.get rm) (cpu.regs.get rt))
  | .str rt rn => some (cpu.store (cpu.regs.get rn) (cpu.regs.get rt))
  | .adds rd rn rm => some (cpu.add rd (cpu.regs.get rn) (cpu.regs.get rm))
  | .addsImm rd rn imm => some (cpu.add rd (cpu.regs.get rn) imm)
  | .cmp rn rm =>
      -- The carry of a subtraction is set unless it borrows.
      some { cpu.next with carry := decide ((cpu.regs.get rm).toNat ≤ (cpu.regs.get rn).toNat) }
  | .b l => some { cpu with pc := lineOf l code }
  | .bcc l => some (if cpu.carry then cpu.next else { cpu with pc := lineOf l code })
  | .blMain => none
  | .bxLr => none

def step (code : List Line) (cpu : Cpu) : Option Cpu := code[cpu.pc]?.bind (exec code cpu)

def resetHandler (l : Layout) : List Line :=
  [ .label .resetHandler,
    .ldrSymbol .sp l.estack,
    .ldrSymbol .r0 l.sdata,
    .ldrSymbol .r1 l.edata,
    .ldrSymbol .r2 l.sidata,
    .movs .r3 0#32,
    .b .loopCopyDataInit,
    .label .copyDataInit,
    .ldr .r4 .r2 .r3,
    .strIndexed .r4 .r0 .r3,
    .addsImm .r3 .r3 4#32,
    .label .loopCopyDataInit,
    .adds .r4 .r0 .r3,
    .cmp .r4 .r1,
    .bcc .copyDataInit,
    .ldrSymbol .r2 l.sbss,
    .ldrSymbol .r4 l.ebss,
    .movs .r3 0#32,
    .b .loopFillZerobss,
    .label .fillZerobss,
    .str .r3 .r2,
    .addsImm .r2 .r2 4#32,
    .label .loopFillZerobss,
    .cmp .r2 .r4,
    .bcc .fillZerobss,
    .blMain,
    .bxLr ]

/-- The processor enters the handler. -/
def atReset (regs : Regs) (carry : Bool) (mem : Memory 32 (BitVec 8)) : Cpu :=
  ⟨0, regs, carry, mem⟩

/-- The processor is about to call `main`. -/
def Cpu.AtMain (l : Layout) (cpu : Cpu) : Prop := (resetHandler l)[cpu.pc]? = some .blMain

/-! ## The loops -/

section Loops

variable {l : Layout} {k : Nat} {mem : Memory 32 (BitVec 8)} {cpu : Cpu}

/-- The head of the first loop, after `k` words. -/
structure CopyHead (l : Layout) (mem : Memory 32 (BitVec 8)) (k : Nat) (cpu : Cpu) : Prop where
  pc : cpu.pc = 11
  r0 : cpu.regs.r0 = l.sdata
  r1 : cpu.regs.r1 = l.edata
  r2 : cpu.regs.r2 = l.sidata
  r3 : cpu.regs.r3 = BitVec.ofNat 32 (4 * k)
  sp : cpu.regs.sp = l.estack
  mem : cpu.mem = mem.copy l.sdata l.sidata (4 * k)

/-- The head of the second loop, after `k` words. -/
structure FillHead (l : Layout) (mem : Memory 32 (BitVec 8)) (k : Nat) (cpu : Cpu) : Prop where
  pc : cpu.pc = 22
  r2 : cpu.regs.r2 = nth l.sbss (4 * k)
  r3 : cpu.regs.r3 = 0#32
  r4 : cpu.regs.r4 = l.ebss
  sp : cpu.regs.sp = l.estack
  mem : cpu.mem = mem.store l.sbss (4 * k) fun _ => 0#8

theorem toNat_nth {p : BitVec 32} {n : Nat} (h : p.toNat + n < 2 ^ 32) :
    (nth p n).toNat = p.toNat + n := by
  rw [nth, BitVec.toNat_add, BitVec.toNat_ofNat]
  omega

/-- Whether a loop is left is a comparison of addresses. -/
theorem not_le_nth {p : BitVec 32} {n k : Nat} (h : p.toNat + 4 * n < 2 ^ 32) (hk : k < n) :
    ¬(nth p (4 * n)).toNat ≤ (nth p (4 * k)).toNat := by
  rw [toNat_nth h, toNat_nth (by omega)]
  omega

/-- The test of the first loop. -/
theorem copy_test (h : CopyHead l mem k cpu) :
    StateTransition.Reaches (step (resetHandler l)) cpu
      ⟨14, ⟨l.sdata, l.edata, l.sidata, BitVec.ofNat 32 (4 * k), nth l.sdata (4 * k), l.estack⟩,
        decide (l.edata.toNat ≤ (nth l.sdata (4 * k)).toNat),
        mem.copy l.sdata l.sidata (4 * k)⟩ := by
  obtain ⟨pc, ⟨r0, r1, r2, r3, r4, sp⟩, carry, m⟩ := cpu
  obtain ⟨rfl, rfl, rfl, rfl, rfl, rfl, rfl⟩ := h
  exact Machine.reaches_head rfl (Machine.reaches_head rfl (Machine.reaches_head rfl .refl))

theorem copy_pass (hk : k < l.dataWords) (h : CopyHead l mem k cpu) :
    ∃ cpu', StateTransition.Reaches (step (resetHandler l)) cpu cpu' ∧
      CopyHead l mem (k + 1) cpu' := by
  have hfits := l.data_fits
  have htest := copy_test h
  rw [Layout.edata, decide_eq_false (not_le_nth hfits hk)] at htest
  -- The branch is taken, and then a word is loaded, stored and counted.
  refine ⟨_, htest.trans (Machine.reaches_head rfl (Machine.reaches_head rfl
    (Machine.reaches_head rfl (Machine.reaches_head rfl (Machine.reaches_head rfl .refl))))), ?_⟩
  have hnext : 4 * k + 4 = 4 * (k + 1) := by omega
  refine ⟨rfl, rfl, rfl, rfl, ?_, rfl, ?_⟩
  · show BitVec.ofNat 32 (4 * k) + BitVec.ofNat 32 4 = _
    rw [← BitVec.ofNat_add, hnext]
  · have hword : (mem.copy l.sdata l.sidata (4 * k)).storeWord (nth l.sdata (4 * k))
        ((mem.copy l.sdata l.sidata (4 * k)).word (nth l.sidata (4 * k))) =
        mem.copy l.sdata l.sidata (4 * k + 4) := by
      refine Memory.copy_word (by omega) ?_
      rcases l.image with hsame | hapart
      · exact Or.inl hsame
      · exact Or.inr fun x hx hx' => hapart x (hx.mono (by omega)) (hx'.mono (by omega))
    rw [← hnext]
    exact hword

/-- The first loop is left, and the second one prepared. -/
theorem copy_exit (h : CopyHead l mem l.dataWords cpu) :
    ∃ cpu', StateTransition.Reaches (step (resetHandler l)) cpu cpu' ∧
      FillHead l (mem.copy l.sdata l.sidata (4 * l.dataWords)) 0 cpu' := by
  have htest := copy_test h
  have hleft : l.edata.toNat ≤ (nth l.sdata (4 * l.dataWords)).toNat := Nat.le_refl _
  rw [decide_eq_true hleft] at htest
  refine ⟨_, htest.trans (Machine.reaches_head rfl (Machine.reaches_head rfl
    (Machine.reaches_head rfl (Machine.reaches_head rfl (Machine.reaches_head rfl .refl))))), ?_⟩
  exact ⟨rfl, (nth_zero _).symm, rfl, rfl, rfl, Memory.store_zero.symm⟩

/-- The test of the second loop. -/
theorem fill_test (h : FillHead l mem k cpu) :
    ∃ regs : Regs, regs.r2 = nth l.sbss (4 * k) ∧ regs.r3 = 0#32 ∧ regs.r4 = l.ebss ∧
      regs.sp = l.estack ∧
      StateTransition.Reaches (step (resetHandler l)) cpu
        ⟨24, regs, decide (l.ebss.toNat ≤ (nth l.sbss (4 * k)).toNat),
          mem.store l.sbss (4 * k) fun _ => 0#8⟩ := by
  obtain ⟨pc, ⟨r0, r1, r2, r3, r4, sp⟩, carry, m⟩ := cpu
  obtain ⟨rfl, rfl, rfl, rfl, rfl, rfl⟩ := h
  exact ⟨_, rfl, rfl, rfl, rfl, Machine.reaches_head rfl (Machine.reaches_head rfl .refl)⟩

theorem fill_pass (hk : k < l.bssWords) (h : FillHead l mem k cpu) :
    ∃ cpu', StateTransition.Reaches (step (resetHandler l)) cpu cpu' ∧
      FillHead l mem (k + 1) cpu' := by
  have hfits := l.bss_fits
  obtain ⟨⟨r0, r1, r2, r3, r4, sp⟩, rfl, rfl, rfl, rfl, htest⟩ := fill_test h
  rw [Layout.ebss, decide_eq_false (not_le_nth hfits hk)] at htest
  refine ⟨_, htest.trans (Machine.reaches_head rfl (Machine.reaches_head rfl
    (Machine.reaches_head rfl (Machine.reaches_head rfl .refl)))), ?_⟩
  have hnext : 4 * k + 4 = 4 * (k + 1) := by omega
  refine ⟨rfl, ?_, rfl, rfl, rfl, ?_⟩
  · show nth (nth l.sbss (4 * k)) 4 = _
    rw [nth_nth, hnext]
  · rw [← hnext]
    exact Memory.zeros_word (by omega)

/-- The second loop is left. -/
theorem fill_exit (h : FillHead l mem l.bssWords cpu) :
    ∃ cpu', StateTransition.Reaches (step (resetHandler l)) cpu cpu' ∧
      cpu'.AtMain l ∧ cpu'.regs.sp = l.estack ∧
      cpu'.mem = mem.store l.sbss (4 * l.bssWords) fun _ => 0#8 := by
  obtain ⟨regs, -, -, -, hsp, htest⟩ := fill_test h
  have hleft : l.ebss.toNat ≤ (nth l.sbss (4 * l.bssWords)).toNat := Nat.le_refl _
  rw [decide_eq_true hleft] at htest
  exact ⟨_, htest.trans (Machine.reaches_head rfl .refl), rfl, hsp, rfl⟩

end Loops

/-- The memory of a program that begins. -/
def Layout.loaded (l : Layout) (mem : Memory 32 (BitVec 8)) : Memory 32 (BitVec 8) :=
  (mem.copy l.sdata l.sidata (4 * l.dataWords)).store l.sbss (4 * l.bssWords) fun _ => 0#8

theorem eval_resetHandler (l : Layout) (regs : Regs) (carry : Bool) (mem : Memory 32 (BitVec 8)) :
    ∃ cpu, cpu ∈ eval (step (resetHandler l)) (atReset regs carry mem) ∧
      cpu.AtMain l ∧ cpu.regs.sp = l.estack ∧ cpu.mem = l.loaded mem := by
  obtain ⟨cpu₁, hreach₁, hcopy⟩ : ∃ cpu,
      StateTransition.Reaches (step (resetHandler l)) (atReset regs carry mem) cpu ∧
        CopyHead l mem 0 cpu := by
    refine ⟨_, Machine.reaches_head rfl (Machine.reaches_head rfl (Machine.reaches_head rfl
      (Machine.reaches_head rfl (Machine.reaches_head rfl (Machine.reaches_head rfl
        (Machine.reaches_head rfl .refl)))))), ?_⟩
    exact ⟨rfl, rfl, rfl, rfl, rfl, rfl, Memory.copy_zero.symm⟩
  obtain ⟨cpu₂, hreach₂, hcopied⟩ := Machine.reaches_loop (fun _ hk _ => copy_pass hk) hcopy
  obtain ⟨cpu₃, hreach₃, hfill⟩ := copy_exit hcopied
  obtain ⟨cpu₄, hreach₄, hfilled⟩ := Machine.reaches_loop (fun _ hk _ => fill_pass hk) hfill
  obtain ⟨cpu₅, hreach₅, hmain, hsp, hmem⟩ := fill_exit hfilled
  have hreach := hreach₁.trans (hreach₂.trans (hreach₃.trans (hreach₄.trans hreach₅)))
  have hstop : step (resetHandler l) cpu₅ = none := by
    rw [step, hmain]
    rfl
  exact ⟨cpu₅, mem_eval.2 ⟨hreach, hstop⟩, hmain, hsp, hmem⟩

section Loaded

variable {l : Layout} {mem : Memory 32 (BitVec 8)} {x : BitVec 32}

theorem Layout.loaded_data {i : Nat} (hi : i < 4 * l.dataWords) :
    l.loaded mem (nth l.sdata i) = mem (nth l.sidata i) := by
  have hfits : 4 * l.dataWords ≤ 2 ^ 32 := by
    have := l.data_fits
    omega
  have hdata : l.InData (nth l.sdata i) := inRegion_nth hi hfits
  rw [Layout.loaded, Memory.store_outside (l.apart _ hdata)]
  exact Memory.copy_nth hi hfits

theorem Layout.loaded_bss (hx : l.InBss x) : l.loaded mem x = 0#8 := if_pos hx

theorem Layout.loaded_outside (hdata : ¬l.InData x) (hbss : ¬l.InBss x) :
    l.loaded mem x = mem x := by
  rw [Layout.loaded, Memory.store_outside hbss]
  exact Memory.copy_outside hdata

end Loaded

/-- Whatever the registers and the RAM held, `Reset_Handler` gets to the call of `main`, with the
stack pointer set, the initial values in `.data`, zeros in `.bss`, and the rest of the memory as it
was. -/
theorem main_reached (l : Layout) (regs : Regs) (carry : Bool) (mem : Memory 32 (BitVec 8)) :
    ∃ cpu, cpu ∈ eval (step (resetHandler l)) (atReset regs carry mem) ∧
      cpu.AtMain l ∧ cpu.regs.sp = l.estack ∧
      (∀ i < 4 * l.dataWords, cpu.mem (nth l.sdata i) = mem (nth l.sidata i)) ∧
      (∀ x, l.InBss x → cpu.mem x = 0#8) ∧
      ∀ x, ¬l.InData x → ¬l.InBss x → cpu.mem x = mem x := by
  obtain ⟨cpu, heval, hmain, hsp, hmem⟩ := eval_resetHandler l regs carry mem
  refine ⟨cpu, heval, hmain, hsp, ?_, ?_, ?_⟩
  · intro i hi
    rw [hmem]
    exact Layout.loaded_data hi
  · intro x hx
    rw [hmem]
    exact Layout.loaded_bss hx
  · intro x hdata hbss
    rw [hmem]
    exact Layout.loaded_outside hdata hbss

end Startup
end SdioFat32
