import SdioFat32.Driver.CsdFields
import SdioFat32.Effects.Interp

/-!
# EraseChunk — `get_optimal_erase_chunk` and its cache

The size is computed from `csd_data` at the first call and kept in `cached_erase_chunk` for good:
nothing that loads another register resets it.

* `uncachedEraseChunk`: the computation behind the cache;
* `eraseFields`: what the fields of the register say, and the sizes they stand for;
* `chunkSession`: calls of `load_csd_sd` and `get_optimal_erase_chunk` in any order.
-/

namespace SdioFat32
namespace Driver

open Effects Proc Cells

/-! ## The computation -/

/-- `get_optimal_erase_chunk` after the test of the cache; `csd` has no initial value in the
source, and the fields that are read are written before. -/
def uncachedEraseChunk (d : Vector (BitVec 32) 4) : BitVec 32 :=
  let (status, csd) := readCsdData d CsdType.zero
  if status < 0 then 1024#32
  else
    let eraseSize :=
      if csd.csdStructure = 0 then
        let size := (csd.wpGrpSize.setWidth 32 + 1#32) *
          (if csd.eraseBlkEn ≠ 0 then 1#32 else 0#32)
        if size = 0#32 then 512#32 else size
      else if csd.csdStructure = 1 then (csd.wpGrpSize.setWidth 32 + 1#32) * 512#32
      else 1024#32
    if 4096#32 < eraseSize then 4096#32 else eraseSize

/-- `cached_erase_chunk` beside the other variables of `SD.c`. -/
abbrev ChunkGlobals : Type := SdGlobals × BitVec 32

abbrev ChunkProc (α : Type) : Type := Proc ChunkGlobals SdioEvent SdioEvent.Response α

def getOptimalEraseChunk : ChunkProc (BitVec 32) := do
  let g ← globals
  if g.2 ≠ 0#32 then return g.2
  let chunk := uncachedEraseChunk g.1.csdData
  assign fun g => (g.1, chunk)
  return chunk

/-! ## The fields -/

/-- Whether the size is counted in blocks or in units of 512 blocks, and the number of units less
one. -/
def eraseFields (r : BitVec 128) : Bool × Nat :=
  if bits r 127 126 = 0 then
    if bits r 46 46 = 1 then (true, bits r 38 32) else (false, 0)
  else if bits r 127 126 = 1 then (false, min (bits r 38 32) 7)
  else (false, 1)

/-- The number of blocks these fields stand for. -/
def chunkOf (fields : Bool × Nat) : Nat :=
  if fields.1 then fields.2 + 1 else (fields.2 + 1) * 512

theorem eraseFields_bounds (r : BitVec 128) :
    (eraseFields r).2 < 128 ∧ ((eraseFields r).1 = false → (eraseFields r).2 ≤ 7) := by
  have hwp : bits r 38 32 < 128 := bits_lt r 38 32
  unfold eraseFields
  split
  · split
    · exact ⟨hwp, fun h => by cases h⟩
    · exact ⟨by decide, fun _ => by decide⟩
  · split
    · exact ⟨Nat.lt_of_le_of_lt (Nat.min_le_right _ _) (by decide), fun _ => Nat.min_le_right _ _⟩
    · exact ⟨by decide, fun _ => by decide⟩

/-- A number of units less than 512 blocks is not a multiple of 512 blocks. -/
theorem chunkOf_eraseFields_inj {r r' : BitVec 128} :
    chunkOf (eraseFields r) = chunkOf (eraseFields r') ↔ eraseFields r = eraseFields r' := by
  refine ⟨fun h => ?_, congrArg chunkOf⟩
  rcases eraseFields_bounds r with ⟨hlt, _⟩
  rcases eraseFields_bounds r' with ⟨hlt', _⟩
  -- A number of blocks below 128 is no multiple of 512.
  generalize eraseFields r = x at h hlt ⊢
  generalize eraseFields r' = x' at h hlt' ⊢
  rcases x with ⟨_ | _, n⟩
  · rcases x' with ⟨_ | _, n'⟩
    · have hunits : (n + 1) * 512 = (n' + 1) * 512 := h
      have hn : n = n' := by omega
      rw [hn]
    · have hunits : (n + 1) * 512 = n' + 1 := h
      have hsmall : n' < 128 := hlt'
      omega
  · rcases x' with ⟨_ | _, n'⟩
    · have hunits : n + 1 = (n' + 1) * 512 := h
      have hsmall : n < 128 := hlt
      omega
    · have hblocks : n + 1 = n' + 1 := h
      rw [Nat.succ_injective hblocks]

theorem chunkOf_eraseFields_range (r : BitVec 128) :
    1 ≤ chunkOf (eraseFields r) ∧ chunkOf (eraseFields r) ≤ 4096 := by
  rcases eraseFields_bounds r with ⟨hlt, hle⟩
  unfold chunkOf
  split
  · omega
  · rename_i hfalse
    have hseven := hle (Bool.not_eq_true _ ▸ hfalse)
    omega

/-- The size in units of one block or of 512 blocks, before it is bounded. -/
theorem toNat_wpGrpSize (d : Vector (BitVec 32) 4) :
    ((csdField (d.get 2) 0x007f#32 0).setWidth 32 + 1#32).toNat = bits (csdRegister d) 38 32 + 1 := by
  have hwp : (csdField (d.get 2) 0x007f#32 0).toNat = bits (csdRegister d) 38 32 :=
    csdField_word d 2 (by decide) (by decide)
  have hlt : bits (csdRegister d) 38 32 < 128 := bits_lt _ 38 32
  rw [BitVec.toNat_add, BitVec.toNat_setWidth, hwp]
  simp only [BitVec.toNat_ofNat]
  omega

theorem toNat_bounded (size : BitVec 32) :
    (if 4096#32 < size then 4096#32 else size).toNat = min size.toNat 4096 := by
  split
  · rename_i hlarge
    have hlt : 4096 < size.toNat := BitVec.lt_def.1 hlarge
    exact (Nat.min_eq_right (Nat.le_of_lt hlt)).symm
  · rename_i hsmall
    have hle : size.toNat ≤ 4096 := Nat.not_lt.1 fun h => hsmall (BitVec.lt_def.2 h)
    exact (Nat.min_eq_left hle).symm

/-- A size of version 1. -/
theorem toNat_chunkV1 (d : Vector (BitVec 32) 4) :
    (let size := ((csdField (d.get 2) 0x007f#32 0).setWidth 32 + 1#32) *
        (if csdField (d.get 2) 0x4000#32 14 ≠ 0 then 1#32 else 0#32)
      if size = 0#32 then 512#32 else size).toNat =
      chunkOf (if bits (csdRegister d) 46 46 = 1 then (true, bits (csdRegister d) 38 32)
        else (false, 0)) := by
  have hblkEn : (csdField (d.get 2) 0x4000#32 14).toNat = bits (csdRegister d) 46 46 :=
    csdField_word d 2 (by decide) (by decide)
  have hsize := toNat_wpGrpSize d
  by_cases hset : bits (csdRegister d) 46 46 = 1
  · have hne : csdField (d.get 2) 0x4000#32 14 ≠ 0 := by
      intro hzero
      rw [hzero, hset] at hblkEn
      exact absurd hblkEn (by decide)
    have hpos : (csdField (d.get 2) 0x007f#32 0).setWidth 32 + 1#32 ≠ 0#32 := by
      intro hzero
      rw [hzero] at hsize
      exact absurd hsize.symm (Nat.succ_ne_zero _)
    rw [if_pos hset, if_pos hne, BitVec.mul_one]
    dsimp only
    rw [if_neg hpos, hsize]
    rfl
  · -- The product is 0, which the source replaces by 512.
    have hbit : bits (csdRegister d) 46 46 < 2 := bits_lt _ 46 46
    have hzero : csdField (d.get 2) 0x4000#32 14 = 0 := by
      apply BitVec.eq_of_toNat_eq
      rw [hblkEn, Nat.lt_one_iff.1 (by omega : bits (csdRegister d) 46 46 < 1)]
      rfl
    rw [if_neg hset, if_neg (not_not.2 hzero), BitVec.mul_zero]
    rfl

/-- The computation reads the fields. -/
theorem toNat_uncachedEraseChunk (d : Vector (BitVec 32) 4) :
    (uncachedEraseChunk d).toNat = chunkOf (eraseFields (csdRegister d)) := by
  have hword : (csdField (d.get 0) 0xc0000000#32 30).toNat = bits (csdRegister d) 127 126 :=
    csdField_word d 0 (by decide) (by decide)
  have hsize := toNat_wpGrpSize d
  by_cases hknown : bits (csdRegister d) 127 126 ≤ 1
  · rcases readCsdData_known CsdType.zero hknown with ⟨hstatus, hversion, hblkEn, hwp⟩
    unfold uncachedEraseChunk
    generalize readCsdData d CsdType.zero = register at hstatus hversion hblkEn hwp
    rcases register with ⟨status, csd⟩
    dsimp only at hstatus hversion hblkEn hwp ⊢
    rw [hstatus, if_neg (by decide), toNat_bounded, hversion, hblkEn, hwp]
    rcases csdStructure_known hknown with hzero | hone
    · -- Version 1 counts blocks where `ERASE_BLK_EN` is set.
      have hbits : bits (csdRegister d) 127 126 = 0 := by
        rw [← hword, hzero]
        rfl
      have hrange := chunkOf_eraseFields_range (csdRegister d)
      unfold eraseFields at hrange ⊢
      rw [if_pos hbits] at hrange ⊢
      rw [if_pos hzero, toNat_chunkV1]
      exact Nat.min_eq_left hrange.2
    · -- Version 2 always counts units of 512 blocks, at most 8 of them.
      have hbits : bits (csdRegister d) 127 126 = 1 := by
        rw [← hword, hone]
        rfl
      have hne : ¬csdField (d.get 0) 0xc0000000#32 30 = 0 := by
        rw [hone]
        decide
      unfold eraseFields
      rw [if_neg hne, if_pos hone, if_neg (by omega), if_pos hbits, BitVec.toNat_mul, hsize]
      have hlt : bits (csdRegister d) 38 32 < 128 := bits_lt _ 38 32
      simp only [chunkOf, BitVec.toNat_ofNat, Bool.false_eq_true, if_false]
      omega
  · -- `read_csd_data` refuses the register.
    have hbits : (CsdSpec.structureBits (csdRegister d)).toNat = bits (csdRegister d) 127 126 :=
      (bits_eq_extract (csdRegister d) 127 126).symm
    have hother : (readCsdData d CsdType.zero).1 = -2 := by
      refine readCsdData_other d CsdType.zero ?_ ?_
      · intro hzero
        exact hknown (by rw [← hbits, hzero]; decide)
      · intro hone
        exact hknown (by rw [← hbits, hone]; decide)
    unfold uncachedEraseChunk
    generalize readCsdData d CsdType.zero = register at hother
    rcases register with ⟨status, csd⟩
    dsimp only at hother ⊢
    unfold eraseFields
    rw [hother, if_pos (by decide), if_neg (by omega), if_neg (by omega)]
    rfl

/-- So it is never 0, which is what an empty cache holds. -/
theorem uncachedEraseChunk_ne_zero (d : Vector (BitVec 32) 4) : uncachedEraseChunk d ≠ 0#32 := by
  intro hzero
  have hrange := chunkOf_eraseFields_range (csdRegister d)
  rw [← toNat_uncachedEraseChunk, hzero] at hrange
  exact absurd hrange.1 (by decide)

theorem uncachedEraseChunk_inj {d d' : Vector (BitVec 32) 4} :
    uncachedEraseChunk d = uncachedEraseChunk d' ↔
      eraseFields (csdRegister d) = eraseFields (csdRegister d') := by
  rw [← BitVec.toNat_inj, toNat_uncachedEraseChunk, toNat_uncachedEraseChunk,
    chunkOf_eraseFields_inj]

/-! ## Sessions -/

inductive ChunkCall where
  | loadCsdSd
  | getOptimalEraseChunk
  deriving DecidableEq

/-- A call of `get_optimal_erase_chunk`: `csd_data` at the time, and what was returned. -/
structure ChunkQuery where
  loaded : Vector (BitVec 32) 4
  returned : BitVec 32
  deriving DecidableEq

/-- The calls one after the other; the queries among them with their results. -/
def chunkSession (fuel : Nat) : List ChunkCall → ChunkProc (List ChunkQuery)
  | [] => return []
  | .loadCsdSd :: calls => do
      let _ ← (loadCsdSd fuel).beside
      chunkSession fuel calls
  | .getOptimalEraseChunk :: calls => do
      let g ← globals
      let chunk ← getOptimalEraseChunk
      let queries ← chunkSession fuel calls
      return ⟨g.1.csdData, chunk⟩ :: queries

/-- Every query returns what is computed for the register that was loaded last. -/
def ChunkFresh (queries : List ChunkQuery) : Prop :=
  ∀ q ∈ queries, q.returned = uncachedEraseChunk q.loaded ∧
    1 ≤ q.returned.toNat ∧ q.returned.toNat ≤ 4096

/-- At every query the fields of the register are those at the first one. -/
def SameEraseFields (queries : List ChunkQuery) : Prop :=
  ∀ first ∈ queries.head?, ∀ q ∈ queries,
    eraseFields (csdRegister q.loaded) = eraseFields (csdRegister first.loaded)

section Session

variable {σ : Type} {env : Env SdioEvent SdioEvent.Response σ} {fuel : Nat} {g : SdGlobals} {s : σ}

theorem wp_loadCsdSd_beside {chunk : BitVec 32} :
    (loadCsdSd fuel).beside.wp env.lax (fun _ => True) (fun _ g' _ => g'.2 = chunk) (g, chunk) s :=
  wp_beside.2 (wp_mono wp_lax fun _ _ _ _ => rfl)

/-- A cache that is filled answers everything from now on. -/
theorem wp_chunkSession_filled {chunk : BitVec 32} (hfilled : chunk ≠ 0#32)
    (calls : List ChunkCall) :
    (chunkSession fuel calls).wp env.lax (fun _ => True)
      (fun queries _ _ => ∀ q ∈ queries, q.returned = chunk) (g, chunk) s := by
  induction calls generalizing g s with
  | nil => exact fun q hq => absurd hq List.not_mem_nil
  | cons call calls ih =>
      cases call with
      | loadCsdSd =>
          -- Another register, the same cache.
          refine wp_seq wp_loadCsdSd_beside ?_
          rintro _ ⟨g₁, _⟩ s₁ rfl
          exact ih
      | getOptimalEraseChunk =>
          have hcached : getOptimalEraseChunk.wp env.lax (fun _ => True)
              (fun returned g' s' => returned = chunk ∧ g' = (g, chunk)) (g, chunk) s := by
            refine wp_bind.2 (wp_globals.2 ?_)
            rw [if_pos hfilled]
            exact ⟨rfl, rfl⟩
          refine wp_bind.2 (wp_globals.2 (wp_seq hcached ?_))
          rintro _ _ s₁ ⟨rfl, rfl⟩
          refine wp_seq ih ?_
          intro queries g₂ s₂ hrest q hq
          rcases List.mem_cons.1 hq with rfl | hq
          · rfl
          · exact hrest q hq

/-- The first query fills the cache. -/
theorem wp_chunkSession_empty (calls : List ChunkCall) :
    (chunkSession fuel calls).wp env.lax (fun _ => True)
      (fun queries _ _ => ∀ first ∈ queries.head?, ∀ q ∈ queries,
        q.returned = uncachedEraseChunk first.loaded) (g, 0#32) s := by
  induction calls generalizing g s with
  | nil => exact fun first hfirst => by cases hfirst
  | cons call calls ih =>
      cases call with
      | loadCsdSd =>
          refine wp_seq wp_loadCsdSd_beside ?_
          rintro _ ⟨g₁, _⟩ s₁ rfl
          exact ih
      | getOptimalEraseChunk =>
          have hcomputed : getOptimalEraseChunk.wp env.lax (fun _ => True)
              (fun returned g' s' => returned = uncachedEraseChunk g.csdData ∧
                g' = (g, uncachedEraseChunk g.csdData)) (g, 0#32) s := by
            refine wp_bind.2 (wp_globals.2 ?_)
            rw [if_neg (not_not.2 rfl)]
            exact ⟨rfl, rfl⟩
          refine wp_bind.2 (wp_globals.2 (wp_seq hcomputed ?_))
          rintro _ _ s₁ ⟨rfl, rfl⟩
          -- The cache is filled, and is what every later query returns.
          refine wp_seq (wp_chunkSession_filled (uncachedEraseChunk_ne_zero g.csdData) calls) ?_
          intro queries g₂ s₂ hrest first hfirst q hq
          cases hfirst
          rcases List.mem_cons.1 hq with rfl | hq
          · rfl
          · exact hrest q hq

end Session

theorem chunkFresh_iff {queries : List ChunkQuery}
    (hcached : ∀ first ∈ queries.head?, ∀ q ∈ queries,
      q.returned = uncachedEraseChunk first.loaded) :
    ChunkFresh queries ↔ SameEraseFields queries := by
  constructor
  · intro hfresh first hfirst q hq
    exact uncachedEraseChunk_inj.1 ((hfresh q hq).1.symm.trans (hcached first hfirst q hq))
  · intro hsame q hq
    cases queries with
    | nil => exact absurd hq List.not_mem_nil
    | cons first rest =>
        have hvalue := hcached first rfl q hq
        have hrange := chunkOf_eraseFields_range (csdRegister first.loaded)
        rw [← toNat_uncachedEraseChunk, ← hvalue] at hrange
        exact ⟨hvalue.trans (uncachedEraseChunk_inj.2 (hsame first rfl q hq)).symm, hrange⟩

/-! ## Two cards -/

/-- A card is taken out after the first `CMD9`, and another one put in. -/
def swappedCards (sent : Nat) : (e : SdioEvent) → e.Response × Nat
  | .write .cmd _ => ((), sent + 1)
  | e =>
      let words := if sent ≤ 1 then csdOf1920MB else csdOfClass5B5
      ((answeringR2 words () e).1, sent)

/-- The size of the first card, 512 blocks, is also returned for the second one, which is erased
block by block. -/
theorem erase_chunk_stale :
    ∃ queries g' s', Runs (Env.following swappedCards)
        (chunkSession 1 [.loadCsdSd, .getOptimalEraseChunk, .loadCsdSd, .getOptimalEraseChunk]
          (blankGlobals, 0#32)) 0 (queries, g') s' ∧
      queries = [⟨csdOf1920MB, 512#32⟩, ⟨csdOfClass5B5, 512#32⟩] ∧
      uncachedEraseChunk csdOfClass5B5 = 1#32 ∧ ¬ChunkFresh queries := by
  have hsize : uncachedEraseChunk csdOfClass5B5 = 1#32 := by decide
  have hexec : ((chunkSession 1 [.loadCsdSd, .getOptimalEraseChunk, .loadCsdSd,
      .getOptimalEraseChunk] (blankGlobals, 0#32)).exec swappedCards 0).map (fun x => x.1.1) =
      some [⟨csdOf1920MB, 512#32⟩, ⟨csdOfClass5B5, 512#32⟩] := by
    decide +kernel
  rcases Prog.exec_returns (Env.following_step _) hexec with ⟨g', s', hrun⟩
  refine ⟨_, g', s', hrun, rfl, hsize, ?_⟩
  intro hfresh
  have hstale := (hfresh ⟨csdOfClass5B5, 512#32⟩ (by simp)).1
  rw [hsize] at hstale
  exact absurd hstale (by decide)

/-- In a session that starts with an empty cache the sizes are those of the registers loaded
exactly if their erase fields never change between queries. -/
theorem erase_chunk_fresh_iff {σ : Type} {env : Env SdioEvent SdioEvent.Response σ} (fuel : Nat)
    (calls : List ChunkCall) (g : SdGlobals) (g' : ChunkGlobals) (s s' : σ)
    (queries : List ChunkQuery)
    (hrun : Runs env (chunkSession fuel calls (g, 0#32)) s (queries, g') s') :
    ChunkFresh queries ↔ SameEraseFields queries :=
  chunkFresh_iff (wp_runs (wp_chunkSession_empty calls) hrun.lax)

/-- One card whose register is read twice. -/
theorem erase_chunk_fresh_iff_1920MB :
    ∃ queries g' s', Runs (Env.following (answeringR2 csdOf1920MB))
        (chunkSession 1 [.loadCsdSd, .getOptimalEraseChunk, .loadCsdSd, .getOptimalEraseChunk]
          (blankGlobals, 0#32)) () (queries, g') s' ∧
      ChunkFresh queries := by
  have hexec : ((chunkSession 1 [.loadCsdSd, .getOptimalEraseChunk, .loadCsdSd,
      .getOptimalEraseChunk] (blankGlobals, 0#32)).exec (answeringR2 csdOf1920MB) ()).map
      (fun x => x.1.1) = some [⟨csdOf1920MB, 512#32⟩, ⟨csdOf1920MB, 512#32⟩] := by
    decide +kernel
  rcases Prog.exec_returns (Env.following_step _) hexec with ⟨g', s', hrun⟩
  refine ⟨_, g', s', hrun, (erase_chunk_fresh_iff 1 _ blankGlobals g' () s' _ hrun).2 ?_⟩
  intro first hfirst q hq
  cases hfirst
  rcases List.mem_cons.1 hq with rfl | hq
  · rfl
  · rw [List.mem_singleton.1 hq]

end Driver
end SdioFat32
