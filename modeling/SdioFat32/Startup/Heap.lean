import SdioFat32.Startup.ResetHandler

/-!
# Heap — the memory that `_sbrk` hands out

`_sbrk` of `sysmem.c` moves the end of the heap; the heap begins behind `.bss` and must not grow
into the stack.

* `growAll` — a heap that grows and shrinks at its end, as a number of bytes in use;
* `heap_after_reset` — after `Reset_Handler`, `_sbrk` is such a heap, and what it hands out belongs
  to nothing else.
-/

namespace SdioFat32
namespace Startup

open Cells StateTransition

/-! ## A heap with an end -/

/-- Of `room` bytes `held` are in use.  What is granted begins at their end. -/
def growBy (room held : Nat) (incr : Int) : Option Nat × Nat :=
  if held + incr ≤ room then (some held, (held + incr).toNat) else (none, held)

def growAll (room : Nat) : List Int → Nat → List (Option Nat)
  | [], _ => []
  | incr :: incrs, held =>
      (growBy room held incr).1 :: growAll room incrs (growBy room held incr).2

/-- No request gives back more than is in use. -/
def Covered (room : Nat) : List Int → Nat → Prop
  | [], _ => True
  | incr :: incrs, held => 0 ≤ held + incr ∧ Covered room incrs (growBy room held incr).2

/-- What was granted: where it begins, and how many bytes. -/
def granted (room : Nat) (incrs : List Int) (held : Nat) : List (Nat × Nat) :=
  (incrs.zip (growAll room incrs held)).filterMap fun request =>
    request.2.map fun offset => (offset, request.1.toNat)

section Granted

variable {room held : Nat} {incr : Int} {incrs : List Int}

theorem granted_cons_of_le (h : held + incr ≤ room) :
    granted room (incr :: incrs) held =
      (held, incr.toNat) :: granted room incrs (held + incr).toNat := by
  simp [granted, growAll, growBy, h]

theorem granted_cons_of_not_le (h : ¬held + incr ≤ room) :
    granted room (incr :: incrs) held = granted room incrs held := by
  simp [granted, growAll, growBy, h]

theorem granted_le (hheld : held ≤ room) (hcovered : Covered room incrs held) :
    ∀ g ∈ granted room incrs held, g.1 + g.2 ≤ room := by
  induction incrs generalizing held with
  | nil => exact fun g hg => absurd hg List.not_mem_nil
  | cons incr incrs ih =>
      obtain ⟨hincr, hrest⟩ := hcovered
      by_cases hroom : held + incr ≤ room
      · rw [growBy, if_pos hroom] at hrest
        rw [granted_cons_of_le hroom]
        intro g hg
        rcases List.mem_cons.1 hg with rfl | hg
        · show held + incr.toNat ≤ room
          omega
        · exact ih (by omega) hrest g hg
      · rw [growBy, if_neg hroom] at hrest
        rw [granted_cons_of_not_le hroom]
        exact ih hheld hrest

/-- A heap that only grows. -/
theorem granted_pairwise (hgrows : ∀ incr ∈ incrs, 0 ≤ incr) :
    (∀ g ∈ granted room incrs held, held ≤ g.1) ∧
      (granted room incrs held).Pairwise fun a b => a.1 + a.2 ≤ b.1 := by
  induction incrs generalizing held with
  | nil => exact ⟨fun g hg => absurd hg List.not_mem_nil, List.Pairwise.nil⟩
  | cons incr incrs ih =>
      have hincr : 0 ≤ incr := hgrows incr List.mem_cons_self
      have hrest : ∀ incr ∈ incrs, 0 ≤ incr := fun i hi => hgrows i (List.mem_cons_of_mem _ hi)
      by_cases hroom : held + incr ≤ room
      · rw [granted_cons_of_le hroom]
        have ⟨hfrom, hpairs⟩ := @ih (held + incr).toNat hrest
        refine ⟨?_, List.pairwise_cons.2 ⟨?_, hpairs⟩⟩
        · intro g hg
          rcases List.mem_cons.1 hg with rfl | hg
          · exact Nat.le_refl held
          · have := hfrom g hg
            omega
        · intro g hg
          have := hfrom g hg
          show held + incr.toNat ≤ g.1
          omega
      · rw [granted_cons_of_not_le hroom]
        exact ih hrest

end Granted

theorem growBy_le {room held : Nat} {incr : Int} (hheld : held ≤ room) (hincr : 0 ≤ held + incr) :
    (growBy room held incr).2 ≤ room := by
  unfold growBy
  split
  · show (held + incr).toNat ≤ room
    omega
  · exact hheld

/-! ## `sysmem.c` -/

def minHeapSize : Nat := 0x200
def minStackSize : Nat := 0x400

def enomem : Int := 12

/-- `(void *)-1` -/
def sbrkFailed : BitVec 32 := 0xFFFFFFFF#32

namespace Layout

variable (l : Layout)

/-- `_end`, at the next multiple of 8 behind `.bss` -/
def end_ : BitVec 32 := BitVec.ofNat 32 ((l.ebss.toNat + 7) / 8 * 8)

/-- The bytes between `_end` and what is reserved for the stack. -/
def room : Nat := l.estack.toNat - minStackSize - l.end_.toNat

/-- What the linker checks. -/
structure HeapFits : Prop where
  ordered : l.edata.toNat ≤ l.sbss.toNat
  room : (l.ebss.toNat + 7) / 8 * 8 + minHeapSize + minStackSize ≤ l.estack.toNat
  ram : l.estack.toNat ≤ 2 ^ 31

/-- A result of `_sbrk`. -/
def pointer : Option Nat → BitVec 32
  | some offset => nth l.end_ offset
  | none => sbrkFailed

/-- An address of none of the sections, and below the stack. -/
def Unused (x : BitVec 32) : Prop :=
  ¬l.InData x ∧ ¬l.InBss x ∧ x.toNat < l.estack.toNat - minStackSize

end Layout

structure HeapState where
  mem : Memory 32 (BitVec 8)
  errno : Int

/-- `_sbrk`; `heapEnd` is the address of `__sbrk_heap_end`. -/
def sbrk (l : Layout) (heapEnd incr : BitVec 32) (s : HeapState) : BitVec 32 × HeapState :=
  let maxHeap := l.estack - BitVec.ofNat 32 minStackSize
  let mem := if s.mem.word heapEnd = 0#32 then s.mem.storeWord heapEnd l.end_ else s.mem
  if maxHeap < mem.word heapEnd + incr then (sbrkFailed, ⟨mem, enomem⟩)
  else (mem.word heapEnd, ⟨mem.storeWord heapEnd (mem.word heapEnd + incr), s.errno⟩)

def sbrkAll (l : Layout) (heapEnd : BitVec 32) :
    List (BitVec 32) → HeapState → List (BitVec 32) × HeapState
  | [], s => ([], s)
  | incr :: incrs, s =>
      let (p, s) := sbrk l heapEnd incr s
      let (ps, s) := sbrkAll l heapEnd incrs s
      (p :: ps, s)

/-! ## The code is such a heap -/

section Heap

variable {l : Layout} {heapEnd incr : BitVec 32} {held : Nat} {s : HeapState}

theorem Layout.HeapFits.toNat_end (h : l.HeapFits) :
    l.end_.toNat = (l.ebss.toNat + 7) / 8 * 8 := by
  have hroom := h.room
  have hram := h.ram
  rw [Layout.end_, BitVec.toNat_ofNat]
  omega

/-- The variable is set to `_end` at the first call. -/
def HeapAt (l : Layout) (heapEnd : BitVec 32) (held : Nat) (mem : Memory 32 (BitVec 8)) : Prop :=
  mem.word heapEnd = nth l.end_ held ∨ held = 0 ∧ mem.word heapEnd = 0#32

theorem toNat_nth_end (hfits : l.HeapFits) (hheld : held ≤ l.room) :
    (nth l.end_ held).toNat = l.end_.toNat + held := by
  have hram := hfits.ram
  unfold Layout.room at hheld
  apply toNat_nth
  have := hfits.room
  have := hfits.toNat_end
  omega

/-- `__sbrk_heap_end` once it is set. -/
def settled (l : Layout) (heapEnd : BitVec 32) (mem : Memory 32 (BitVec 8)) :
    Memory 32 (BitVec 8) :=
  if mem.word heapEnd = 0#32 then mem.storeWord heapEnd l.end_ else mem

theorem word_settled (hfits : l.HeapFits) (hheld : held ≤ l.room)
    {mem : Memory 32 (BitVec 8)} (h : HeapAt l heapEnd held mem) :
    (settled l heapEnd mem).word heapEnd = nth l.end_ held := by
  unfold settled
  split
  · rename_i hzero
    have hheld' : held = 0 := by
      rcases h with hend | ⟨hnone, -⟩
      · have hsum := toNat_nth_end hfits hheld
        rw [← hend, hzero, BitVec.toNat_zero] at hsum
        omega
      · exact hnone
    rw [Memory.word_storeWord, hheld', nth_zero]
  · rename_i hset
    exact h.resolve_right fun hunset => hset hunset.2

theorem settled_outside {mem : Memory 32 (BitVec 8)} {x : BitVec 32}
    (hx : ¬InRegion heapEnd 4 x) : settled l heapEnd mem x = mem x := by
  unfold settled
  split
  · exact Memory.store_outside hx
  · rfl

/-- Neither the sum nor the limit wraps around. -/
theorem limit_lt_iff (hfits : l.HeapFits) (hheld : held ≤ l.room) (hincr : 0 ≤ held + incr.toInt) :
    l.estack - BitVec.ofNat 32 minStackSize < nth l.end_ held + incr ↔
      ¬held + incr.toInt ≤ l.room := by
  have hend := toNat_nth_end hfits hheld
  have hroom := hfits.room
  have hram := hfits.ram
  have hstart := hfits.toNat_end
  have hsigned : incr.toInt = if 2 * incr.toNat < 2 ^ 32 then (incr.toNat : Int)
      else (incr.toNat : Int) - (2 ^ 32 : Nat) := BitVec.toInt_eq_toNat_cond incr
  have hlimit : (l.estack - BitVec.ofNat 32 minStackSize).toNat =
      l.estack.toNat - minStackSize := by
    rw [BitVec.toNat_sub, BitVec.toNat_ofNat]
    unfold minStackSize at *
    omega
  unfold Layout.room at *
  unfold minStackSize at *
  rw [BitVec.lt_def, hlimit, BitVec.toNat_add, hend]
  split at hsigned
  · omega
  · omega

/-- The end of the heap moves. -/
theorem nth_end_add (hfits : l.HeapFits) (hheld : held ≤ l.room) (hincr : 0 ≤ held + incr.toInt)
    (hroom : held + incr.toInt ≤ l.room) :
    nth l.end_ held + incr = nth l.end_ (held + incr.toInt).toNat := by
  have hend := toNat_nth_end hfits hheld
  have hend' : (nth l.end_ (held + incr.toInt).toNat).toNat =
      l.end_.toNat + (held + incr.toInt).toNat := toNat_nth_end hfits (by omega)
  have hsigned : incr.toInt = if 2 * incr.toNat < 2 ^ 32 then (incr.toNat : Int)
      else (incr.toNat : Int) - (2 ^ 32 : Nat) := BitVec.toInt_eq_toNat_cond incr
  apply BitVec.eq_of_toNat_eq
  rw [BitVec.toNat_add, hend, hend']
  have hlt := (nth l.end_ (held + incr.toInt).toNat).isLt
  split at hsigned
  · omega
  · omega

/-- One request. -/
theorem sbrk_step (hfits : l.HeapFits) (hheld : held ≤ l.room)
    (hincr : 0 ≤ held + incr.toInt) (h : HeapAt l heapEnd held s.mem) :
    (sbrk l heapEnd incr s).1 = l.pointer (growBy l.room held incr.toInt).1 ∧
      HeapAt l heapEnd (growBy l.room held incr.toInt).2 (sbrk l heapEnd incr s).2.mem ∧
      (sbrk l heapEnd incr s).2.errno =
        (if (growBy l.room held incr.toInt).1 = none then enomem else s.errno) ∧
      ∀ x, ¬InRegion heapEnd 4 x → (sbrk l heapEnd incr s).2.mem x = s.mem x := by
  have hword := word_settled hfits hheld h
  have hsbrk : sbrk l heapEnd incr s =
      if l.estack - BitVec.ofNat 32 minStackSize < nth l.end_ held + incr then
        (sbrkFailed, ⟨settled l heapEnd s.mem, enomem⟩)
      else (nth l.end_ held,
        ⟨(settled l heapEnd s.mem).storeWord heapEnd (nth l.end_ held + incr), s.errno⟩) := by
    rw [← hword]
    rfl
  rw [hsbrk]
  by_cases hroom : held + incr.toInt ≤ l.room
  · have hgrow : growBy l.room held incr.toInt = (some held, (held + incr.toInt).toNat) :=
      if_pos hroom
    rw [if_neg (fun hlimit => (limit_lt_iff hfits hheld hincr).1 hlimit hroom), hgrow]
    refine ⟨rfl, Or.inl ?_, rfl, ?_⟩
    · rw [Memory.word_storeWord]
      exact nth_end_add hfits hheld hincr hroom
    · intro x hx
      exact (Memory.store_outside hx).trans (settled_outside hx)
  · have hgrow : growBy l.room held incr.toInt = (none, held) := if_neg hroom
    rw [if_pos ((limit_lt_iff hfits hheld hincr).2 hroom), hgrow]
    exact ⟨rfl, Or.inl hword, rfl, fun x hx => settled_outside hx⟩

/-- What was handed out: where, and how many bytes. -/
def grants (incrs results : List (BitVec 32)) : List (BitVec 32 × Nat) :=
  (incrs.zip results).filterMap fun request =>
    if request.2 = sbrkFailed then none else some (request.2, request.1.toInt.toNat)

theorem grants_map_pointer (hfits : l.HeapFits) {incrs : List (BitVec 32)} (hheld : held ≤ l.room)
    (hcovered : Covered l.room (incrs.map BitVec.toInt) held) :
    grants incrs ((growAll l.room (incrs.map BitVec.toInt) held).map l.pointer) =
      (granted l.room (incrs.map BitVec.toInt) held).map fun g => (nth l.end_ g.1, g.2) := by
  induction incrs generalizing held with
  | nil => rfl
  | cons incr incrs ih =>
      obtain ⟨hincr, hrest⟩ := hcovered
      have hrest' := ih (growBy_le hheld hincr) hrest
      by_cases hroom : held + incr.toInt ≤ l.room
      · have hgrow : growBy l.room held incr.toInt = (some held, (held + incr.toInt).toNat) :=
          if_pos hroom
        have hvalid : nth l.end_ held ≠ sbrkFailed := by
          intro heq
          have haddr := toNat_nth_end hfits hheld
          have hend := hfits.toNat_end
          have hroom' := hfits.room
          have hram := hfits.ram
          have hfailed : sbrkFailed.toNat = 2 ^ 32 - 1 := rfl
          unfold Layout.room at hheld
          rw [heq, hfailed] at haddr
          omega
        rw [hgrow] at hrest'
        rw [List.map_cons, granted_cons_of_le hroom, List.map_cons, ← hrest']
        simp [grants, growAll, hgrow, Layout.pointer, hvalid]
      · have hgrow : growBy l.room held incr.toInt = (none, held) := if_neg hroom
        rw [hgrow] at hrest'
        rw [List.map_cons, granted_cons_of_not_le hroom, ← hrest']
        simp [grants, growAll, hgrow, Layout.pointer]

/-- Whatever is requested, as long as no request gives back more than is in use. -/
theorem sbrkAll_run (hfits : l.HeapFits) {incrs : List (BitVec 32)} (hheld : held ≤ l.room)
    (hcovered : Covered l.room (incrs.map BitVec.toInt) held) (h : HeapAt l heapEnd held s.mem) :
    (sbrkAll l heapEnd incrs s).1 =
        (growAll l.room (incrs.map BitVec.toInt) held).map l.pointer ∧
      (sbrkAll l heapEnd incrs s).2.errno =
        (if none ∈ growAll l.room (incrs.map BitVec.toInt) held then enomem else s.errno) ∧
      ∀ x, ¬InRegion heapEnd 4 x → (sbrkAll l heapEnd incrs s).2.mem x = s.mem x := by
  induction incrs generalizing held s with
  | nil => exact ⟨rfl, rfl, fun _ _ => rfl⟩
  | cons incr incrs ih =>
      obtain ⟨hincr, hcovered⟩ := hcovered
      obtain ⟨hresult, hheap, herrno, hframe⟩ := sbrk_step hfits hheld hincr h
      obtain ⟨hresults, herrnos, hframes⟩ := ih (growBy_le hheld hincr) hcovered hheap
      refine ⟨congrArg₂ List.cons hresult hresults, ?_, fun x hx => ?_⟩
      · refine herrnos.trans ?_
        rw [herrno]
        by_cases hrefused : (growBy l.room held incr.toInt).1 = none
        · simp [growAll, hrefused]
        · simp [growAll, hrefused, Ne.symm hrefused]
      · exact (hframes x hx).trans (hframe x hx)

theorem unused_of_offset (hfits : l.HeapFits) {offset : Nat} (hoffset : offset < l.room) :
    l.Unused (nth l.end_ offset) := by
  have haddr := toNat_nth_end hfits hoffset.le
  have hend := hfits.toNat_end
  have hdata : l.edata.toNat = l.sdata.toNat + 4 * l.dataWords := toNat_nth l.data_fits
  have hbss : l.ebss.toNat = l.sbss.toNat + 4 * l.bssWords := toNat_nth l.bss_fits
  have hordered := hfits.ordered
  refine ⟨?_, ?_, ?_⟩
  · intro hin
    obtain ⟨i, hi, heq⟩ := hin.exists_nth
    have hsame := congrArg BitVec.toNat heq
    have hfit := l.data_fits
    rw [haddr, toNat_nth (by omega)] at hsame
    omega
  · intro hin
    obtain ⟨i, hi, heq⟩ := hin.exists_nth
    have hsame := congrArg BitVec.toNat heq
    have hfit := l.bss_fits
    rw [haddr, toNat_nth (by omega)] at hsame
    omega
  · unfold Layout.room at hoffset
    omega

/-- From reset to the heap: whatever is requested of `_sbrk`, as long as no request gives back more
than is in use, the answers are those of a heap that begins at `_end`; `errno` is `ENOMEM` if one
was refused; of the memory only `__sbrk_heap_end` is written, what is handed out lies in no section
and below the stack, and while the heap only grows no byte is handed out twice. -/
theorem heap_after_reset {incrs : List (BitVec 32)} {regs : Regs} {carry : Bool}
    {mem : Memory 32 (BitVec 8)} {cpu : Cpu} (hfits : l.HeapFits)
    (hvariable : ∀ i < 4, l.InBss (nth heapEnd i))
    (hcovered : Covered l.room (incrs.map BitVec.toInt) 0)
    (hreset : cpu ∈ eval (step (resetHandler l)) (atReset regs carry mem)) :
    (sbrkAll l heapEnd incrs ⟨cpu.mem, 0⟩).1 =
        (growAll l.room (incrs.map BitVec.toInt) 0).map l.pointer ∧
      (sbrkAll l heapEnd incrs ⟨cpu.mem, 0⟩).2.errno =
        (if none ∈ growAll l.room (incrs.map BitVec.toInt) 0 then enomem else 0) ∧
      (∀ x, ¬InRegion heapEnd 4 x → (sbrkAll l heapEnd incrs ⟨cpu.mem, 0⟩).2.mem x = cpu.mem x) ∧
      (∀ g ∈ grants incrs (sbrkAll l heapEnd incrs ⟨cpu.mem, 0⟩).1,
        ∀ x, InRegion g.1 g.2 x → l.Unused x) ∧
      ((∀ incr ∈ incrs, 0 ≤ incr.toInt) →
        (grants incrs (sbrkAll l heapEnd incrs ⟨cpu.mem, 0⟩).1).Pairwise
          fun a b => Apart a.1 a.2 b.1 b.2) := by
  obtain ⟨cpu', heval, -, -, hmem⟩ := eval_resetHandler l regs carry mem
  have hsame : cpu = cpu' := Part.mem_unique hreset heval
  have hzero : cpu.mem.word heapEnd = 0#32 := by
    calc cpu.mem.word heapEnd
        = ofBytes fun _ => 0#8 := by
          refine ofBytes_congr fun i hi => ?_
          rw [hsame, hmem]
          exact Layout.loaded_bss (hvariable i hi)
      _ = 0#32 := rfl
  have hheap : HeapAt l heapEnd 0 cpu.mem := Or.inr ⟨rfl, hzero⟩
  have hheld : 0 ≤ l.room := Nat.zero_le _
  obtain ⟨hresults, herrno, hframe⟩ :=
    sbrkAll_run (s := ⟨cpu.mem, 0⟩) hfits hheld hcovered hheap
  have hwithin := granted_le hheld hcovered
  rw [hresults, grants_map_pointer hfits hheld hcovered]
  refine ⟨rfl, herrno, hframe, ?_, ?_⟩
  · intro g hg x hx
    obtain ⟨g', hg', rfl⟩ := List.mem_map.1 hg
    have hroom := hwithin g' hg'
    obtain ⟨i, hi, rfl⟩ := hx.exists_nth
    rw [nth_nth]
    exact unused_of_offset hfits (by omega)
  · intro hgrows
    have hnonneg : ∀ incr ∈ incrs.map BitVec.toInt, 0 ≤ incr := by
      intro incr hincr
      obtain ⟨v, hv, rfl⟩ := List.mem_map.1 hincr
      exact hgrows v hv
    have hpairs : (granted l.room (incrs.map BitVec.toInt) 0).Pairwise
        fun a b => a.1 + a.2 ≤ b.1 := (granted_pairwise hnonneg).2
    refine List.pairwise_map.2 (hpairs.imp_of_mem ?_)
    intro a b ha hb hab
    have ha' := hwithin a ha
    have hb' := hwithin b hb
    have haddr : ∀ i, nth l.end_ i = BitVec.ofNat 32 (l.end_.toNat + i) := by
      intro i
      rw [BitVec.ofNat_add, BitVec.ofNat_toNat, BitVec.setWidth_eq]
      rfl
    have hroom := toNat_nth_end hfits (Nat.le_refl l.room)
    have hlt := (nth l.end_ l.room).isLt
    rw [haddr, haddr]
    exact apart_ofNat (by omega) (by omega) (Or.inl (by omega))

end Heap

/-- Where both linker scripts put the sections, the heap fits if the linker finds the room that it
asks for. -/
theorem heapFits_of_places {l : Layout} {data bss : Nat}
    (hdata : l.sdata = BitVec.ofNat 32 (ramOrigin + data))
    (hbss : l.sbss = BitVec.ofNat 32 (ramOrigin + bss))
    (hstack : l.estack = BitVec.ofNat 32 (ramOrigin + ramLength))
    (hordered : data + 4 * l.dataWords ≤ bss)
    (hroom : bss + 4 * l.bssWords + 7 + minHeapSize + minStackSize ≤ ramLength) : l.HeapFits := by
  have hedata : l.edata.toNat = l.sdata.toNat + 4 * l.dataWords := toNat_nth l.data_fits
  have hebss : l.ebss.toNat = l.sbss.toNat + 4 * l.bssWords := toNat_nth l.bss_fits
  have hfit := l.data_fits
  unfold ramLength minHeapSize minStackSize at hroom
  unfold ramLength at hstack
  unfold ramOrigin at hdata hbss hstack
  rw [hdata, BitVec.toNat_ofNat] at hedata
  rw [hbss, BitVec.toNat_ofNat] at hebss
  have hend : l.estack.toNat = 0x20000000 + 128 * 1024 := by
    rw [hstack]
    rfl
  refine ⟨?_, ?_, ?_⟩
  · rw [hedata, hbss, BitVec.toNat_ofNat]
    omega
  · unfold minHeapSize minStackSize
    omega
  · omega

theorem heapFits_flashLayout {load dataWords gap bssWords : Nat}
    {hflash : load + 4 * dataWords ≤ flashLength}
    {hram : 4 * dataWords + gap + 4 * bssWords ≤ ramLength}
    (hroom : 4 * dataWords + gap + 4 * bssWords + 7 + minHeapSize + minStackSize ≤ ramLength) :
    (flashLayout load dataWords gap bssWords hflash hram).HeapFits := by
  have hdata : (flashLayout load dataWords gap bssWords hflash hram).sdata =
      BitVec.ofNat 32 (ramOrigin + 0) := rfl
  refine heapFits_of_places hdata rfl rfl ?_ hroom
  show 0 + 4 * dataWords ≤ 4 * dataWords + gap
  omega

theorem heapFits_ramLayout {code dataWords gap bssWords : Nat}
    {hram : code + 4 * dataWords + gap + 4 * bssWords ≤ ramLength}
    (hroom : code + 4 * dataWords + gap + 4 * bssWords + 7 + minHeapSize + minStackSize ≤
      ramLength) :
    (ramLayout code dataWords gap bssWords hram).HeapFits :=
  heapFits_of_places rfl rfl rfl (Nat.le_add_right _ _) hroom

/-- A program with two words of `.data` and four of `.bss`, in flash and in RAM. -/
def smallLayout : Layout := flashLayout 0x1000 2 0 4 (by decide) (by decide)

def smallRamLayout : Layout := ramLayout 0x1000 2 0 4 (by decide)

/-- 64 bytes, more than there is, 32 bytes, and 16 bytes back. -/
def heapRequests : List (BitVec 32) := [64#32, 0x200000#32, 32#32, -16#32]

def someRegs : Regs := ⟨1#32, 2#32, 3#32, 4#32, 5#32, 6#32⟩

theorem heap_after_reset_small :
    (∃ cpu, cpu ∈ eval (step (resetHandler smallLayout)) (atReset someRegs true fun _ => 0xA5#8) ∧
      (sbrkAll smallLayout smallLayout.sbss heapRequests ⟨cpu.mem, 0⟩).1 =
        [0x20000018#32, sbrkFailed, 0x20000058#32, 0x20000078#32]) ∧
    ∃ cpu, cpu ∈ eval (step (resetHandler smallRamLayout))
        (atReset someRegs true fun _ => 0xA5#8) ∧
      (sbrkAll smallRamLayout smallRamLayout.sbss heapRequests ⟨cpu.mem, 0⟩).1 =
        [0x20001018#32, sbrkFailed, 0x20001058#32, 0x20001078#32] := by
  constructor
  · obtain ⟨cpu, heval, -⟩ := eval_resetHandler smallLayout someRegs true fun _ => 0xA5#8
    have hvariable : ∀ i < 4, smallLayout.InBss (nth smallLayout.sbss i) :=
      fun i hi => inRegion_nth (Nat.lt_of_lt_of_le hi (by decide)) (by decide)
    have hcovered : Covered smallLayout.room (heapRequests.map BitVec.toInt) 0 :=
      ⟨by decide, by decide, by decide, by decide, trivial⟩
    obtain ⟨hresults, -⟩ :=
      heap_after_reset (heapFits_flashLayout (by decide)) hvariable hcovered heval
    exact ⟨cpu, heval, hresults.trans (by decide)⟩
  · obtain ⟨cpu, heval, -⟩ := eval_resetHandler smallRamLayout someRegs true fun _ => 0xA5#8
    have hvariable : ∀ i < 4, smallRamLayout.InBss (nth smallRamLayout.sbss i) :=
      fun i hi => inRegion_nth (Nat.lt_of_lt_of_le hi (by decide)) (by decide)
    have hcovered : Covered smallRamLayout.room (heapRequests.map BitVec.toInt) 0 :=
      ⟨by decide, by decide, by decide, by decide, trivial⟩
    obtain ⟨hresults, -⟩ :=
      heap_after_reset (heapFits_ramLayout (by decide)) hvariable hcovered heval
    exact ⟨cpu, heval, hresults.trans (by decide)⟩

end Startup
end SdioFat32
