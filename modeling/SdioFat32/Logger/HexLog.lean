import SdioFat32.Cells.Page
import SdioFat32.Cells.Stream

/-!
# HexLog — a hex dump in a buffer of 4000 characters

`stm_log_hex` formats the bytes group by group with `snprintf` and moves its cursor on by the length
that `snprintf` returns, cut off or not.  Whether the cursor has reached the end is looked at before
a group, not after it.

* `stmLogHex` — the code, on a page that keeps account of its writes;
* `hexRendering` — the whole dump;
* `printed` — the loop on the text alone, without a buffer.
-/

namespace SdioFat32
namespace Logger

open Cells

inductive LogLevel where
  | debug
  | info
  | warning
  | error

inductive LogGroupBytes where
  | group1Byte
  | group2Byte
  | group4Byte

/-- The value of the enumerator. -/
def LogGroupBytes.bytes : LogGroupBytes → Nat
  | .group1Byte => 1
  | .group2Byte => 2
  | .group4Byte => 4

theorem LogGroupBytes.bytes_pos (group : LogGroupBytes) : 0 < group.bytes := by
  cases group <;> decide

/-! ## The format -/

def nul : Char := Char.ofNat 0

def hexDigit (n : Nat) : Char := if n < 10 then Char.ofNat (48 + n) else Char.ofNat (55 + n)

/-- `%02X` -/
def hexByte (b : BitVec 8) : List Char := [hexDigit (b.toNat / 16), hexDigit (b.toNat % 16)]

/-- `%02X ` -/
def hexByteSpace (b : BitVec 8) : List Char := hexByte b ++ [' ']

example : hexByteSpace 0xA5#8 = ['A', '5', ' '] := by decide

/-! ## The code -/

/-- `buffer` and `ptr`, as an offset into it. -/
structure LogCursor where
  page : Page Char
  ptr : Nat

/-- `sizeof(buffer)` -/
def hexBufferSize : Nat := 4000

/-- `end`, as an offset. -/
def hexEnd : Nat := hexBufferSize - 1

/-- `ptr += snprintf(ptr, end - ptr, ...)`; the difference is converted to `size_t`. -/
def LogCursor.snprintf (s : LogCursor) (text : List Char) : LogCursor :=
  let n : BitVec 32 := BitVec.ofInt 32 ((hexEnd : Int) - s.ptr)
  { page := s.page.print nul s.ptr n.toNat text
    ptr := s.ptr + text.length }

/-- The `switch` in the loop. -/
def putGroup (data : Nat → BitVec 8) (size : Nat) (group : LogGroupBytes) (byte : Nat)
    (s : LogCursor) : LogCursor :=
  match group with
  | .group1Byte => s.snprintf (hexByteSpace (data byte))
  | .group2Byte =>
      if byte + 1 < size then s.snprintf (hexByte (data byte) ++ hexByteSpace (data (byte + 1)))
      else s.snprintf (hexByteSpace (data byte))
  | .group4Byte =>
      if byte + 3 < size then
        s.snprintf (hexByte (data byte) ++ (hexByte (data (byte + 1)) ++
          (hexByte (data (byte + 2)) ++ hexByteSpace (data (byte + 3)))))
      else
        -- The bytes left over; the cursor is not looked at in between.
        (slice data byte size).foldl (fun s b => s.snprintf (hexByteSpace b)) s

/-- The `for` loop from `byte` on. -/
def hexLoop (data : Nat → BitVec 8) (size : Nat) (group : LogGroupBytes) (byte : Nat)
    (s : LogCursor) : LogCursor :=
  if byte < size then
    if hexEnd ≤ s.ptr + 1 then s
    else hexLoop data size group (byte + group.bytes) (putGroup data size group byte s)
  else s
termination_by size - byte
decreasing_by
  have hpos := group.bytes_pos
  omega

/-- The call of `stm_log`, with the format `"%s"`. -/
structure LogCall where
  level : LogLevel
  errCode : BitVec 16
  file : String
  line : Int
  text : List Char

/-- `buffer` holds what the stack held before.  The result is the buffer, with every write to it,
and the call of `stm_log`, if there is one. -/
def stmLogHex (buffer : Nat → Char) (level : LogLevel) (errCode : BitVec 16) (file : String)
    (line : Int) (data : Nat → BitVec 8) (size : Int) (group : LogGroupBytes) :
    Page Char × Option LogCall :=
  if size ≤ 0 ∨ 4000 < size then (⟨buffer, []⟩, none)
  else
    let s := hexLoop data size.toNat group 0 ⟨⟨buffer, []⟩, 0⟩
    let page := s.page.store s.ptr nul
    (page, some
      { level := level
        errCode := errCode
        file := file
        line := line
        text := page.string nul hexBufferSize })

/-! ## The rendering -/

/-- A whole group, or the bytes left over one by one. -/
def hexPiece (data : Nat → BitVec 8) (size : Nat) (group : LogGroupBytes) (byte : Nat) :
    List Char :=
  if byte + group.bytes ≤ size then (slice data byte (byte + group.bytes)).flatMap hexByte ++ [' ']
  else (slice data byte size).flatMap hexByteSpace

/-- The first `k` groups. -/
def renderingUpTo (data : Nat → BitVec 8) (size : Nat) (group : LogGroupBytes) (k : Nat) :
    List Char :=
  (List.range k).flatMap fun j => hexPiece data size group (j * group.bytes)

/-- The full grouped rendering of `data[0, size)`. -/
def hexRendering (data : Nat → BitVec 8) (size : Nat) (group : LogGroupBytes) : List Char :=
  renderingUpTo data size group ((size + group.bytes - 1) / group.bytes)

example : hexRendering (fun i => BitVec.ofNat 8 i) 3 .group2Byte = "0001 02 ".toList := by decide

section Rendering

variable {data : Nat → BitVec 8} {size byte k : Nat} {group : LogGroupBytes}

theorem hexDigit_ne_nul {n : Nat} (hn : n < 16) : hexDigit n ≠ nul := by
  revert n
  decide

theorem nul_notMem_hexByte (b : BitVec 8) : nul ∉ hexByte b := by
  have hb : b.toNat < 256 := b.isLt
  have hhigh := hexDigit_ne_nul (n := b.toNat / 16) (by omega)
  have hlow := hexDigit_ne_nul (n := b.toNat % 16) (by omega)
  simp [hexByte, hhigh.symm, hlow.symm]

theorem nul_notMem_hexByteSpace (b : BitVec 8) : nul ∉ hexByteSpace b := by
  have hspace : nul ≠ ' ' := by decide
  simp [hexByteSpace, nul_notMem_hexByte b, hspace]

theorem hexPiece_whole (h : byte + group.bytes ≤ size) :
    hexPiece data size group byte =
      (slice data byte (byte + group.bytes)).flatMap hexByte ++ [' '] := if_pos h

theorem hexPiece_rest (h : ¬ byte + group.bytes ≤ size) :
    hexPiece data size group byte = (slice data byte size).flatMap hexByteSpace := if_neg h

theorem nul_notMem_hexPiece : nul ∉ hexPiece data size group byte := by
  have hspace : nul ≠ ' ' := by decide
  unfold hexPiece
  split
  · simp [nul_notMem_hexByte, hspace]
  · simp [nul_notMem_hexByteSpace]

theorem nul_notMem_renderingUpTo : nul ∉ renderingUpTo data size group k := by
  simp [renderingUpTo, nul_notMem_hexPiece]

theorem length_hexByte (b : BitVec 8) : (hexByte b).length = 2 := rfl

theorem length_hexByteSpace (b : BitVec 8) : (hexByteSpace b).length = 3 := rfl

/-- A text of `c` characters for every element. -/
theorem length_flatMap_const {α β : Type} {c : Nat} {f : α → List β} (hf : ∀ a, (f a).length = c)
    (l : List α) : (l.flatMap f).length = c * l.length := by
  induction l with
  | nil => simp
  | cons a l ih =>
      rw [List.flatMap_cons, List.length_append, ih, hf, List.length_cons, Nat.mul_succ,
        Nat.add_comm]

@[simp] theorem length_slice (n : Nat) : (slice data k n).length = n - k := by
  simp [slice]

theorem length_hexPiece :
    (hexPiece data size group byte).length =
      if byte + group.bytes ≤ size then 2 * group.bytes + 1 else 3 * (size - byte) := by
  unfold hexPiece
  split
  · rw [List.length_append, length_flatMap_const length_hexByte, length_slice,
      Nat.add_sub_cancel_left]
    rfl
  · rw [length_flatMap_const length_hexByteSpace, length_slice]

theorem renderingUpTo_succ :
    renderingUpTo data size group (k + 1) =
      renderingUpTo data size group k ++ hexPiece data size group (k * group.bytes) := by
  simp [renderingUpTo, List.range_succ]

theorem renderingUpTo_prefix {j : Nat} (hle : k ≤ j) :
    renderingUpTo data size group k <+: renderingUpTo data size group j := by
  induction hle with
  | refl => exact List.prefix_refl _
  | step _ ih =>
      rw [renderingUpTo_succ]
      exact ih.trans (List.prefix_append _ _)

/-- Whole groups have one length. -/
theorem length_renderingUpTo (hk : k * group.bytes ≤ size) :
    (renderingUpTo data size group k).length = k * (2 * group.bytes + 1) := by
  induction k with
  | zero => simp [renderingUpTo]
  | succ k ih =>
      rw [Nat.succ_mul] at hk
      rw [renderingUpTo_succ, List.length_append, ih (by omega), length_hexPiece, if_pos hk,
        Nat.add_mul, Nat.one_mul]

end Rendering

/-! ## The loop on the text -/

def printed (data : Nat → BitVec 8) (size : Nat) (group : LogGroupBytes) (byte : Nat)
    (text : List Char) : List Char :=
  if byte < size then
    if hexEnd ≤ text.length + 1 then text
    else printed data size group (byte + group.bytes) (text ++ hexPiece data size group byte)
  else text
termination_by size - byte
decreasing_by
  have hpos := group.bytes_pos
  omega

/-- The loop ends before group `k`: nothing is left, or no room was seen. -/
def LoopEnds (data : Nat → BitVec 8) (size : Nat) (group : LogGroupBytes) (k : Nat) : Prop :=
  size ≤ k * group.bytes ∨ hexEnd ≤ (renderingUpTo data size group k).length + 1

section Printed

variable {data : Nat → BitVec 8} {size byte : Nat} {group : LogGroupBytes} {s : LogCursor}
  {text more : List Char}

variable (data size group) in
/-- The loop prints whole pieces until it ends for the first time. -/
theorem printed_eq (k : Nat) (hk : ∀ j < k, ¬ LoopEnds data size group j) :
    ∃ n, printed data size group (k * group.bytes) (renderingUpTo data size group k) =
        renderingUpTo data size group n ∧
      LoopEnds data size group n ∧ ∀ j < n, ¬ LoopEnds data size group j := by
  obtain ⟨left, hleft⟩ : ∃ left, size - k * group.bytes = left := ⟨_, rfl⟩
  induction left using Nat.strong_induction_on generalizing k with
  | _ left ih =>
      unfold printed
      by_cases hbyte : k * group.bytes < size
      · rw [if_pos hbyte]
        by_cases hroom : hexEnd ≤ (renderingUpTo data size group k).length + 1
        · rw [if_pos hroom]
          exact ⟨k, rfl, Or.inr hroom, hk⟩
        · rw [if_neg hroom, ← renderingUpTo_succ, ← Nat.succ_mul]
          -- The group is printed: the loop has not ended here.
          have hgoes : ¬ LoopEnds data size group k := by
            rintro (hsize | hfull)
            · omega
            · exact hroom hfull
          have hpos := group.bytes_pos
          refine ih (size - (k + 1) * group.bytes) ?_ (k + 1) ?_ rfl
          · rw [Nat.succ_mul]
            omega
          · intro j hj
            rcases Nat.lt_succ_iff_lt_or_eq.mp hj with hlt | rfl
            · exact hk j hlt
            · exact hgoes
      · rw [if_neg hbyte]
        exact ⟨k, rfl, Or.inl (Nat.not_lt.mp hbyte), hk⟩

theorem length_le_printed :
    text.length ≤ (printed data size group byte text).length := by
  fun_induction printed with
  | case1 byte text hbyte hroom => exact Nat.le_refl _
  | case2 byte text hbyte hroom ih =>
      rw [List.length_append] at ih
      omega
  | case3 byte text hbyte => exact Nat.le_refl _

/-! ## The code prints that text -/

@[simp] theorem LogCursor.ptr_snprintf :
    (s.snprintf text).ptr = s.ptr + text.length := rfl

theorem ptr_foldl (bytes : List (BitVec 8)) :
    (bytes.foldl (fun s b => s.snprintf (hexByteSpace b)) s).ptr =
      s.ptr + (bytes.flatMap hexByteSpace).length := by
  induction bytes generalizing s with
  | nil => rfl
  | cons b bytes ih =>
      rw [List.foldl_cons, ih, List.flatMap_cons, List.length_append, LogCursor.ptr_snprintf,
        Nat.add_assoc]

theorem slice_one {k n : Nat} (hn : n = k + 1) : slice data k n = [data k] := by
  subst hn
  simp [slice]

/-- A group of the code is a piece of the rendering. -/
theorem putGroup_eq (hbyte : byte < size) :
    putGroup data size group byte s = s.snprintf (hexPiece data size group byte) ∨
      (putGroup data size group byte s =
          (slice data byte size).foldl (fun s b => s.snprintf (hexByteSpace b)) s ∧
        hexPiece data size group byte = (slice data byte size).flatMap hexByteSpace) := by
  cases group with
  | group1Byte =>
      left
      have hwhole : byte + LogGroupBytes.group1Byte.bytes ≤ size := hbyte
      rw [hexPiece_whole hwhole]
      simp [putGroup, slice, LogGroupBytes.bytes, hexByteSpace]
  | group2Byte =>
      left
      unfold putGroup
      dsimp only
      by_cases hpair : byte + 1 < size
      · have hwhole : byte + LogGroupBytes.group2Byte.bytes ≤ size := hpair
        rw [if_pos hpair, hexPiece_whole hwhole]
        simp [slice, LogGroupBytes.bytes, List.range'_succ, hexByteSpace]
      · have hrest : ¬ byte + LogGroupBytes.group2Byte.bytes ≤ size := hpair
        rw [if_neg hpair, hexPiece_rest hrest, slice_one (by omega)]
        simp
  | group4Byte =>
      unfold putGroup
      dsimp only
      by_cases hquad : byte + 3 < size
      · left
        have hwhole : byte + LogGroupBytes.group4Byte.bytes ≤ size := hquad
        rw [if_pos hquad, hexPiece_whole hwhole]
        simp [slice, LogGroupBytes.bytes, List.range'_succ, hexByteSpace]
      · -- Bytes left over, one `snprintf` each.
        right
        have hrest : ¬ byte + LogGroupBytes.group4Byte.bytes ≤ size := hquad
        rw [if_neg hquad, hexPiece_rest hrest]
        exact ⟨rfl, rfl⟩

theorem ptr_putGroup (hbyte : byte < size) :
    (putGroup data size group byte s).ptr = s.ptr + (hexPiece data size group byte).length := by
  rcases putGroup_eq (s := s) hbyte with hone | ⟨hfold, hpiece⟩
  · rw [hone]
    rfl
  · rw [hfold, hpiece, ptr_foldl]

/-- The cursor moves by untruncated lengths. -/
theorem ptr_hexLoop (hptr : s.ptr = text.length) :
    (hexLoop data size group byte s).ptr = (printed data size group byte text).length := by
  fun_induction hexLoop generalizing text with
  | case1 byte s hbyte hroom =>
      unfold printed
      rw [if_pos hbyte, if_pos (hptr ▸ hroom), hptr]
  | case2 byte s hbyte hroom ih =>
      unfold printed
      rw [if_pos hbyte, if_neg (hptr ▸ hroom)]
      apply ih
      rw [ptr_putGroup hbyte, hptr, List.length_append]
  | case3 byte s hbyte =>
      unfold printed
      rw [if_neg hbyte, hptr]

/-- What the page holds is a print of `text`, and the cursor is behind it. -/
structure Printing (s : LogCursor) (text : List Char) : Prop where
  shows : s.page.Shows hexEnd nul text
  ptr : s.ptr = text.length

theorem Printing.snprintf (h : Printing s text) (hroom : text.length ≤ hexEnd) :
    Printing (s.snprintf more) (text ++ more) := by
  have hn : (BitVec.ofInt 32 ((hexEnd : Int) - s.ptr)).toNat = hexEnd - text.length := by
    have hend : hexEnd < 2 ^ 32 := by decide
    rw [h.ptr, BitVec.toNat_ofInt]
    omega
  refine ⟨?_, ?_⟩
  · show (s.page.print nul s.ptr (BitVec.ofInt 32 ((hexEnd : Int) - s.ptr)).toNat more).Shows _ _ _
    rw [hn, h.ptr]
    exact h.shows.print hroom
  · rw [LogCursor.ptr_snprintf, h.ptr, List.length_append]

theorem Printing.foldl (bytes : List (BitVec 8)) (h : Printing s text)
    (hroom : (text ++ bytes.flatMap hexByteSpace).length ≤ hexEnd) :
    Printing (bytes.foldl (fun s b => s.snprintf (hexByteSpace b)) s)
      (text ++ bytes.flatMap hexByteSpace) := by
  induction bytes generalizing s text with
  | nil => simpa using h
  | cons b bytes ih =>
      rw [List.flatMap_cons, ← List.append_assoc] at hroom ⊢
      refine ih (h.snprintf ?_) hroom
      rw [List.append_assoc, List.length_append] at hroom
      omega

theorem Printing.putGroup (h : Printing s text) (hbyte : byte < size)
    (hroom : (text ++ hexPiece data size group byte).length ≤ hexEnd) :
    Printing (putGroup data size group byte s) (text ++ hexPiece data size group byte) := by
  rcases putGroup_eq (s := s) hbyte with hone | ⟨hfold, hpiece⟩
  · rw [hone]
    rw [List.length_append] at hroom
    exact h.snprintf (by omega)
  · rw [hpiece] at hroom ⊢
    rw [hfold]
    exact h.foldl _ hroom

theorem Printing.hexLoop (h : Printing s text)
    (hroom : (printed data size group byte text).length ≤ hexEnd) :
    Printing (hexLoop data size group byte s) (printed data size group byte text) := by
  fun_induction printed generalizing s with
  | case1 byte text hbyte hfull =>
      unfold Logger.hexLoop
      rw [if_pos hbyte, if_pos (h.ptr ▸ hfull)]
      exact h
  | case2 byte text hbyte hfull ih =>
      unfold Logger.hexLoop
      rw [if_pos hbyte, if_neg (h.ptr ▸ hfull)]
      exact ih (h.putGroup hbyte (Nat.le_trans length_le_printed hroom)) hroom
  | case3 byte text hbyte =>
      unfold Logger.hexLoop
      rw [if_neg hbyte]
      exact h

end Printed

/-! ## The bounds -/

/-- The dump ends at most one character past `end`: the terminator is inside the buffer. -/
def FitsBuffer (size : Nat) : LogGroupBytes → Prop
  | .group1Byte => True
  | .group2Byte => size ≤ 1599
  | .group4Byte => size ≤ 1777

section Bounds

variable {data : Nat → BitVec 8} {size n : Nat} {group : LogGroupBytes}

/-- Before the last piece the loop saw only whole groups, and room behind them. -/
theorem length_renderingUpTo_of_first (hfirst : ∀ j < n + 1, ¬ LoopEnds data size group j) :
    n * group.bytes < size ∧ n * (2 * group.bytes + 1) + 1 < hexEnd ∧
      ((renderingUpTo data size group (n + 1)).length = (n + 1) * (2 * group.bytes + 1) ∧
          n * group.bytes + group.bytes ≤ size ∨
        (renderingUpTo data size group (n + 1)).length =
            n * (2 * group.bytes + 1) + 3 * (size - n * group.bytes) ∧
          size < n * group.bytes + group.bytes) := by
  have hlast := hfirst n (Nat.lt_succ_self n)
  unfold LoopEnds at hlast
  rw [not_or, Nat.not_le, Nat.not_le] at hlast
  have hlen : (renderingUpTo data size group n).length = n * (2 * group.bytes + 1) :=
    length_renderingUpTo (Nat.le_of_lt hlast.1)
  rw [hlen] at hlast
  refine ⟨hlast.1, hlast.2, ?_⟩
  rw [renderingUpTo_succ, List.length_append, hlen, length_hexPiece]
  by_cases hwhole : n * group.bytes + group.bytes ≤ size
  · rw [if_pos hwhole, Nat.add_mul n 1, Nat.one_mul]
    exact Or.inl ⟨rfl, hwhole⟩
  · rw [if_neg hwhole]
    exact Or.inr ⟨rfl, Nat.not_le.mp hwhole⟩

variable (data size group) in
theorem length_printed_le_iff :
    (printed data size group 0 []).length ≤ hexEnd ↔ FitsBuffer size group := by
  obtain ⟨n, hprinted, hends, hfirst⟩ :=
    printed_eq data size group 0 (fun j hj => absurd hj (Nat.not_lt_zero j))
  rw [Nat.zero_mul] at hprinted
  have hstart : renderingUpTo data size group 0 = [] := rfl
  rw [hstart] at hprinted
  rw [hprinted]
  unfold LoopEnds at hends
  have hend : hexEnd = 3999 := rfl
  cases n with
  | zero =>
      have hzero : size = 0 := by
        rw [hstart, List.length_nil] at hends
        omega
      rw [hstart, List.length_nil, hzero]
      cases group <;> simp [FitsBuffer]
  | succ n =>
      obtain ⟨hbyte, hroom, hlen⟩ := length_renderingUpTo_of_first hfirst
      -- Three bytes leave 3999 behind one another, but 4000 in pairs and 4005 in fours.
      cases group with
      | group1Byte =>
          simp only [LogGroupBytes.bytes, FitsBuffer, iff_true] at *
          omega
      | group2Byte =>
          simp only [LogGroupBytes.bytes, FitsBuffer] at *
          omega
      | group4Byte =>
          simp only [LogGroupBytes.bytes, FitsBuffer] at *
          omega

variable (data size group) in
/-- The loop prints a prefix of the rendering, and all of it if there is room. -/
theorem printed_beginning :
    printed data size group 0 [] <+: hexRendering data size group ∧
      ((hexRendering data size group).length + 1 ≤ hexEnd →
        printed data size group 0 [] = hexRendering data size group) := by
  obtain ⟨n, hprinted, hends, hfirst⟩ :=
    printed_eq data size group 0 (fun j hj => absurd hj (Nat.not_lt_zero j))
  rw [Nat.zero_mul] at hprinted
  have hstart : renderingUpTo data size group 0 = [] := rfl
  rw [hstart] at hprinted
  rw [hprinted]
  have hpos := group.bytes_pos
  -- The loop ends no later than the groups do.
  have hle : n ≤ (size + group.bytes - 1) / group.bytes := by
    cases n with
    | zero => exact Nat.zero_le _
    | succ n =>
        have hbyte := (length_renderingUpTo_of_first hfirst).1
        rw [Nat.le_div_iff_mul_le hpos, Nat.succ_mul]
        omega
  have hpre : renderingUpTo data size group n <+: hexRendering data size group :=
    renderingUpTo_prefix hle
  refine ⟨hpre, fun hshort => ?_⟩
  rcases hends with hall | hfull
  · -- All groups were printed.
    have hge : (size + group.bytes - 1) / group.bytes ≤ n := by
      rw [← Nat.lt_succ_iff, Nat.div_lt_iff_lt_mul hpos, Nat.succ_mul]
      omega
    rw [hexRendering, Nat.le_antisymm hle hge]
  · exact hpre.eq_of_length_le (by omega)

theorem nul_notMem_printed : nul ∉ printed data size group 0 [] := by
  intro hmem
  have hrendering : nul ∈ hexRendering data size group :=
    (printed_beginning data size group).1.subset hmem
  exact nul_notMem_renderingUpTo hrendering

end Bounds

section Dump

variable (buffer : Nat → Char) (level : LogLevel) (errCode : BitVec 16) (file : String)
  (line : Int) (data : Nat → BitVec 8) {size : Int} {group : LogGroupBytes}

/-- The last write is the terminator, behind everything printed. -/
theorem ptr_mem_writes (hlow : 1 ≤ size) (hhigh : size ≤ 4000) :
    (printed data size.toNat group 0 []).length ∈
      (stmLogHex buffer level errCode file line data size group).1.writes := by
  unfold stmLogHex
  rw [if_neg (by omega)]
  have hptr : (hexLoop data size.toNat group 0 ⟨⟨buffer, []⟩, 0⟩).ptr =
      (printed data size.toNat group 0 []).length := ptr_hexLoop rfl
  rw [← hptr]
  exact List.mem_append_right _ (List.mem_singleton_self _)

/-- Where the dump fits, the string is the dump without what has no room before `end`. -/
theorem stmLogHex_of_fits (hlow : 1 ≤ size) (hhigh : size ≤ 4000)
    (hfits : FitsBuffer size.toNat group) :
    (∀ i ∈ (stmLogHex buffer level errCode file line data size group).1.writes, i < 4000) ∧
      (stmLogHex buffer level errCode file line data size group).2 = some
        { level := level
          errCode := errCode
          file := file
          line := line
          text := (printed data size.toNat group 0 []).take 3998 } := by
  have hroom := (length_printed_le_iff data size.toNat group).mpr hfits
  have hstart : Printing ⟨⟨buffer, []⟩, 0⟩ [] := ⟨Page.Shows.start (by decide) buffer, rfl⟩
  have hloop := hstart.hexLoop hroom
  have hstring := hloop.shows.string (by decide) hroom nul_notMem_printed
  have hwrites := hloop.shows.writes_store hroom nul
  rw [← hloop.ptr] at hstring hwrites
  unfold stmLogHex
  rw [if_neg (by omega)]
  refine ⟨hwrites, ?_⟩
  dsimp only
  rw [show hexBufferSize = hexEnd + 1 from rfl, hstring]
  rfl

end Dump

/-- Every write is inside the buffer, and the string is the dump as far as it has room, exactly when
the last group does not carry the cursor past the buffer. -/
theorem stmLogHex_safe_iff (buffer : Nat → Char) (level : LogLevel) (errCode : BitVec 16)
    (file : String) (line : Int) (data : Nat → BitVec 8) (size : Int) (group : LogGroupBytes)
    (hlow : 1 ≤ size) (hhigh : size ≤ 4000) :
    ((∀ i ∈ (stmLogHex buffer level errCode file line data size group).1.writes, i < 4000) ∧
      ∃ call, (stmLogHex buffer level errCode file line data size group).2 = some call ∧
        call.text <+: hexRendering data size.toNat group ∧
        ((hexRendering data size.toNat group).length ≤ 3998 →
          call.text = hexRendering data size.toNat group)) ↔
      group = .group1Byte ∨ group = .group2Byte ∧ size ≤ 1599 ∨
        group = .group4Byte ∧ size ≤ 1777 := by
  have hcases : (group = .group1Byte ∨ group = .group2Byte ∧ size ≤ 1599 ∨
      group = .group4Byte ∧ size ≤ 1777) ↔ FitsBuffer size.toNat group := by
    cases group <;> simp [FitsBuffer]
  rw [hcases]
  constructor
  · rintro ⟨hwrites, _⟩
    have hlast := hwrites _ (ptr_mem_writes buffer level errCode file line data hlow hhigh)
    exact (length_printed_le_iff data size.toNat group).mp (Nat.le_of_lt_succ hlast)
  · intro hfits
    obtain ⟨hwrites, hcall⟩ :=
      stmLogHex_of_fits buffer level errCode file line data hlow hhigh hfits
    obtain ⟨hpre, hall⟩ := printed_beginning data size.toNat group
    refine ⟨hwrites, _, hcall, ( List.take_prefix _ _).trans hpre, fun hshort => ?_⟩
    dsimp only
    rw [hall (Nat.succ_le_succ hshort), List.take_of_length_le hshort]

/-- A sector in pairs. -/
theorem stmLogHex_safe_sector :
    (∀ i ∈ (stmLogHex (fun _ => nul) .info 0#16 "SD.c" 42 (fun i => BitVec.ofNat 8 i) 512
        .group2Byte).1.writes, i < 4000) ∧
      ∃ call, (stmLogHex (fun _ => nul) .info 0#16 "SD.c" 42 (fun i => BitVec.ofNat 8 i) 512
          .group2Byte).2 = some call ∧
        call.text <+: hexRendering (fun i => BitVec.ofNat 8 i) (512 : Int).toNat .group2Byte ∧
        ((hexRendering (fun i => BitVec.ofNat 8 i) (512 : Int).toNat .group2Byte).length ≤ 3998 →
          call.text = hexRendering (fun i => BitVec.ofNat 8 i) (512 : Int).toNat .group2Byte) :=
  (stmLogHex_safe_iff _ _ _ _ _ _ 512 .group2Byte (by decide) (by decide)).mpr
    (Or.inr (Or.inl ⟨rfl, by decide⟩))

/-- The pair of the bytes 1598 and 1599 carries the cursor to 4000, where the terminator goes. -/
theorem stmLogHex_overruns :
    ¬ ∀ i ∈ (stmLogHex (fun _ => nul) .info 0#16 "SD.c" 42 (fun _ => 0#8) 1600
        .group2Byte).1.writes, i < 4000 := by
  intro hwrites
  have hlast := hwrites _ (ptr_mem_writes _ _ _ _ _ _ (by decide) (by decide))
  have hfits : (1600 : Int).toNat ≤ 1599 :=
    (length_printed_le_iff _ _ .group2Byte).mp (Nat.le_of_lt_succ hlast)
  exact absurd hfits (by decide)

end Logger
end SdioFat32
