import SdioFat32.Middleware.Durability

/-!
# ChunkedWrite — `sd_fat32_write`, one chunk at a time

An iteration of the loop copies what fits into the buffer.  If that fills it, the buffer goes out
as one chunk of 2560 bytes.  The equations of this file follow the three ways an iteration can go
and lead to those of the whole function:

* `Ready.writeAll_nil` — nothing to write;
* `Ready.writeAll_short` — the data fits, with room to spare;
* `Ready.writeAll_full` — the data fills the buffer, which is handed to the library.
-/

namespace SdioFat32
namespace Middleware

open Effects Cells BufferedFile

/-- The bytes that are left to write, with their number. -/
def rest (ptr : List Byte) : BitVec 32 × List Byte := (BitVec.ofNat 32 ptr.length, ptr)

namespace SdFat32File

/-- The bytes that still fit. -/
def room (f : SdFat32File) : Nat := 2560 - f.index.toNat

/-- The handle after the `memcpy` of a chunk. -/
def accept (f : SdFat32File) (chunk : List Byte) : SdFat32File where
  file := f.file
  buffer := copyInto f.buffer f.index.toNat chunk
  index := f.index + BitVec.ofNat 32 chunk.length

def emptied (f : SdFat32File) : SdFat32File where
  file := f.file
  buffer := f.buffer
  index := 0#32

/-! ## Accepting a chunk -/

variable {f : SdFat32File} {chunk a b ptr : List Byte}

@[simp] theorem accept_nil (f : SdFat32File) : f.accept [] = f := by
  simp [accept, copyInto]

theorem within_emptied (f : SdFat32File) : Within f.emptied := Nat.zero_le _

@[simp] theorem pending_emptied (f : SdFat32File) : pending f.emptied = [] := rfl

@[simp] theorem room_emptied (f : SdFat32File) : f.emptied.room = 2560 := rfl

theorem toNat_index_accept (hf : Within f) (h : chunk.length ≤ f.room) :
    (f.accept chunk).index.toNat = f.index.toNat + chunk.length := by
  have hwithin : f.index.toNat ≤ 2560 := hf
  simp only [room] at h
  simp only [accept, BitVec.toNat_add, BitVec.toNat_ofNat]
  omega

theorem within_accept (hf : Within f) (h : chunk.length ≤ f.room) : Within (f.accept chunk) := by
  have hindex := toNat_index_accept hf h
  have hwithin : f.index.toNat ≤ 2560 := hf
  simp only [room] at h
  simp only [Within]
  omega

theorem room_accept (hf : Within f) (h : chunk.length ≤ f.room) :
    (f.accept chunk).room = f.room - chunk.length := by
  simp only [room, toNat_index_accept hf h]
  omega

/-- What is accepted is pending. -/
theorem pending_accept (hf : Within f) (h : chunk.length ≤ f.room) :
    pending (f.accept chunk) = pending f ++ chunk := by
  have hwithin : f.index.toNat ≤ 2560 := hf
  have hfits : f.index.toNat + chunk.length ≤ 2560 := by
    simp only [room] at h
    omega
  rw [pending, toNat_index_accept hf h]
  exact front_copyInto f.buffer f.index.toNat chunk hfits

theorem accept_accept (hf : Within f) (h : a.length ≤ f.room) :
    (f.accept a).accept b = f.accept (a ++ b) := by
  have hindex := toNat_index_accept hf h
  simp only [accept] at hindex ⊢
  rw [hindex, ← copyInto_append, List.length_append, BitVec.ofNat_add, BitVec.add_assoc]

end SdFat32File

open SdFat32File

variable {f : SdFat32File} {ptr data : List Byte} {fuel : Nat}

/-! ## One iteration -/

/-- `toCopy` and the test of the index, in numbers. -/
theorem toCopy_eq (hf : Within f) (hlen : ptr.length < 2 ^ 32) :
    (if BitVec.ofNat 32 ptr.length < sdFat32BufferSize - f.index then BitVec.ofNat 32 ptr.length
      else sdFat32BufferSize - f.index) = BitVec.ofNat 32 (ptr.take f.room).length := by
  have hspace : (sdFat32BufferSize - f.index).toNat = f.room := BitVec.toNat_sub_of_le hf
  have hroom : f.room ≤ 2560 := Nat.sub_le _ _
  have hptr : (BitVec.ofNat 32 ptr.length).toNat = ptr.length := by
    rw [BitVec.toNat_ofNat, Nat.mod_eq_of_lt hlen]
  apply BitVec.eq_of_toNat_eq
  rw [List.length_take, BitVec.toNat_ofNat]
  -- `toCopy` is the smaller one of what is left and of the space in the buffer.
  split
  · rename_i hlt
    rw [BitVec.lt_def, hspace, hptr] at hlt
    rw [hptr]
    omega
  · rename_i hge
    rw [BitVec.lt_def, hspace, hptr] at hge
    rw [hspace]
    omega

/-- A cut at `n` is a cut behind the chunk of at most `n` bytes. -/
theorem cut_at_chunk (n : Nat) :
    ptr.take (ptr.take n).length = ptr.take n ∧ ptr.drop (ptr.take n).length = ptr.drop n := by
  rw [List.length_take]
  rcases Nat.le_total n ptr.length with hle | hle
  · rw [Nat.min_eq_left hle]
    exact ⟨rfl, rfl⟩
  · -- Fewer than `n` bytes are left, and the chunk is all of them.
    rw [Nat.min_eq_right hle, List.take_length, List.drop_length, List.take_of_length_le hle,
      List.drop_eq_nil_of_le hle]
    exact ⟨rfl, rfl⟩

theorem toNat_chunk (hlen : ptr.length < 2 ^ 32) :
    (BitVec.ofNat 32 (ptr.take f.room).length).toNat = (ptr.take f.room).length := by
  rw [BitVec.toNat_ofNat, Nat.mod_eq_of_lt]
  exact Nat.lt_of_le_of_lt (List.length_take_le' _ _) hlen

/-- What is left after the chunk. -/
theorem rest_sub (hlen : ptr.length < 2 ^ 32) :
    (BitVec.ofNat 32 ptr.length - BitVec.ofNat 32 (ptr.take f.room).length,
      ptr.drop (ptr.take f.room).length) = rest (ptr.drop f.room) := by
  rw [(cut_at_chunk f.room).2, rest]
  congr 1
  apply BitVec.eq_of_toNat_eq
  rw [BitVec.toNat_sub_of_le, toNat_chunk hlen, BitVec.toNat_ofNat, BitVec.toNat_ofNat,
    List.length_drop, List.length_take]
  · omega
  · rw [BitVec.le_def, toNat_chunk hlen, BitVec.toNat_ofNat, Nat.mod_eq_of_lt hlen]
    exact List.length_take_le' _ _

theorem writeStep_cons (hne : ptr ≠ []) (hf : Within f) (hlen : ptr.length < 2 ^ 32) :
    writeStep (rest ptr) f =
      if (f.accept (ptr.take f.room)).index = sdFat32BufferSize then
        .op (.writeFile f.file (front (f.accept (ptr.take f.room)).buffer 2560))
          fun (status : Int) =>
            if status ≠ 0 then .ret (.inr status, f.accept (ptr.take f.room))
            else .ret (.inl (rest (ptr.drop f.room)), (f.accept (ptr.take f.room)).emptied)
      else .ret (.inl (rest (ptr.drop f.room)), f.accept (ptr.take f.room)) := by
  have hpos : 0#32 < BitVec.ofNat 32 ptr.length := by
    rw [BitVec.lt_def, BitVec.toNat_ofNat, BitVec.toNat_ofNat, Nat.mod_eq_of_lt hlen]
    exact List.length_pos_iff.2 hne
  unfold writeStep
  rw [rest]
  dsimp only
  rw [if_pos hpos]
  simp only [bind, Prog.bind, Proc.globals, Proc.assign, toCopy_eq hf hlen, toNat_chunk hlen,
    rest_sub hlen, (cut_at_chunk f.room).1]
  rw [toCopy_eq hf hlen]
  have hindex : (f.accept (ptr.take f.room)).index =
      f.index + BitVec.ofNat 32 (ptr.take f.room).length := rfl
  rw [hindex]
  -- The test after the copy: is the buffer full?
  by_cases hfull : f.index + BitVec.ofNat 32 (ptr.take f.room).length = sdFat32BufferSize
  · rw [if_pos hfull]
    refine (congrFun (if_pos hfull) _).trans ?_
    refine congrArg (Prog.op _) (funext fun (status : Int) => ?_)
    by_cases hstatus : status = 0
    · subst hstatus
      rfl
    · exact (congrFun (if_pos hstatus) _).trans (if_pos hstatus).symm
  · rw [if_neg hfull]
    exact congrFun (if_neg hfull) _

/-! ## The whole function -/

/-- `sd_fat32_write` of all bytes of a list. -/
def writeAll (fuel : Nat) (data : List Byte) : FileProc Int :=
  sdFat32Write fuel data (BitVec.ofNat 32 data.length)

theorem effort_rest (hlen : ptr.length < 2 ^ 32) :
    effort (rest ptr) f = ptr.length + if f.index = sdFat32BufferSize then 1 else 0 := by
  rw [effort, rest]
  dsimp only
  rw [BitVec.toNat_ofNat, Nat.mod_eq_of_lt hlen]

theorem index_full_iff (hf : Within f) : f.index = sdFat32BufferSize ↔ f.room = 0 := by
  have hwithin : f.index.toNat ≤ 2560 := hf
  have hsize : sdFat32BufferSize.toNat = 2560 := rfl
  rw [BitVec.toNat_eq, hsize, room]
  omega

theorem index_accept_full_iff (hf : Within f) :
    (f.accept (ptr.take f.room)).index = sdFat32BufferSize ↔ f.room ≤ ptr.length := by
  have htake : (ptr.take f.room).length ≤ f.room := List.length_take_le _ _
  rw [index_full_iff (within_accept hf htake), room_accept hf htake, List.length_take]
  omega

/-- A chunk that was written leaves less to do. -/
theorem effort_written (hne : ptr ≠ []) (hf : Within f) (hlen : ptr.length < 2 ^ 32) :
    effort (rest (ptr.drop f.room)) (f.accept (ptr.take f.room)).emptied < effort (rest ptr) f := by
  have hzero : (0#32 : BitVec 32) ≠ sdFat32BufferSize := by decide
  have hempty : ¬(f.accept (ptr.take f.room)).emptied.index = sdFat32BufferSize := hzero
  have hdrop : (ptr.drop f.room).length ≤ ptr.length := by
    rw [List.length_drop]
    exact Nat.sub_le _ _
  have hpos : 0 < ptr.length := List.length_pos_iff.2 hne
  rw [effort_rest hlen, effort_rest (by omega), if_neg hempty, List.length_drop]
  by_cases hfull : f.index = sdFat32BufferSize
  · rw [if_pos hfull]
    omega
  · rw [if_neg hfull]
    rw [index_full_iff hf] at hfull
    omega

theorem writeAll_nil (f : SdFat32File) : writeAll (fuel + 1) [] f = .ret (0, f) := rfl

theorem writeAll_succ_short (hf : Within f) (hlen : ptr.length < 2 ^ 32)
    (hshort : ptr.length < f.room) (hfuel : effort (rest ptr) f < fuel) :
    writeAll fuel ptr f = .ret (0, f.accept ptr) := by
  rw [effort_rest hlen] at hfuel
  by_cases hne : ptr = []
  · obtain ⟨n, rfl⟩ : ∃ n, fuel = n + 1 := ⟨fuel - 1, by omega⟩
    rw [hne, accept_nil]
    rfl
  · -- One iteration for the bytes, one to find that none is left.
    have hpos : 0 < ptr.length := List.length_pos_iff.2 hne
    obtain ⟨n, rfl⟩ : ∃ n, fuel = n + 1 + 1 := ⟨fuel - 2, by omega⟩
    have hroom : ¬(f.accept (ptr.take f.room)).index = sdFat32BufferSize := by
      rw [index_accept_full_iff hf]
      omega
    have htake : ptr.take f.room = ptr := List.take_of_length_le (Nat.le_of_lt hshort)
    have hdrop : ptr.drop f.room = [] := List.drop_eq_nil_of_le (Nat.le_of_lt hshort)
    change Proc.iter writeStep (n + 1 + 1) (rest ptr) f = _
    rw [Proc.iter_succ, writeStep_cons hne hf hlen, if_neg hroom, htake, hdrop]
    rfl

theorem writeAll_succ_full (hne : ptr ≠ []) (hf : Within f) (hlen : ptr.length < 2 ^ 32)
    (hfull : f.room ≤ ptr.length) :
    writeAll (fuel + 1) ptr f =
      .op (.writeFile f.file (pending f ++ ptr.take f.room)) fun (status : Int) =>
        if status ≠ 0 then .ret (status, f.accept (ptr.take f.room))
        else writeAll fuel (ptr.drop f.room) (f.accept (ptr.take f.room)).emptied := by
  have htake : (ptr.take f.room).length ≤ f.room := List.length_take_le _ _
  have hindex := (index_accept_full_iff hf).2 hfull
  have hbytes : front (f.accept (ptr.take f.room)).buffer 2560 = pending f ++ ptr.take f.room := by
    rw [← pending_accept hf htake, pending, hindex]
    rfl
  change Proc.iter writeStep (fuel + 1) (rest ptr) f = _
  rw [Proc.iter_succ, writeStep_cons hne hf hlen, if_pos hindex, hbytes]
  refine congrArg (Prog.op _) (funext fun (status : Int) => ?_)
  by_cases hstatus : status = 0
  · subst hstatus
    rfl
  · rw [if_pos hstatus]
    change Prog.bind (if status ≠ 0 then _ else _) _ = _
    rw [if_pos hstatus]
    rfl

/-! ## From chunk to chunk -/

/-- A handle that its functions have left, a length the code can express, enough iterations. -/
structure Ready (fuel : Nat) (f : SdFat32File) (ptr : List Byte) : Prop where
  within : Within f
  length : ptr.length < 2 ^ 32
  fuel : effort (rest ptr) f < fuel

theorem ready_of_length (hf : Within f) (hlen : ptr.length < 2 ^ 32)
    (hfuel : ptr.length + 1 < fuel) : Ready fuel f ptr := by
  refine ⟨hf, hlen, ?_⟩
  rw [effort_rest hlen]
  split <;> omega

/-- The handle once the chunk that fills it is written. -/
def SdFat32File.next (f : SdFat32File) (ptr : List Byte) : SdFat32File :=
  (f.accept (ptr.take f.room)).emptied

theorem Ready.next (h : Ready (fuel + 1) f ptr) (hne : ptr ≠ []) :
    Ready fuel (f.next ptr) (ptr.drop f.room) := by
  have hless := effort_written hne h.within h.length
  have hfuel := h.fuel
  refine ⟨within_emptied _, ?_, by rw [SdFat32File.next]; omega⟩
  have hlen := h.length
  rw [List.length_drop]
  omega

theorem Ready.mono (h : Ready fuel f ptr) {n : Nat} (hn : fuel ≤ n) : Ready n f ptr :=
  ⟨h.within, h.length, Nat.lt_of_lt_of_le h.fuel hn⟩

theorem Ready.exists_succ (h : Ready fuel f ptr) : ∃ n, fuel = n + 1 := by
  have hfuel := h.fuel
  exact ⟨fuel - 1, by omega⟩

/-- The data is written chunk by chunk: an induction over the chunks that fill the buffer. -/
theorem chunk_induction {motive : SdFat32File → List Byte → Prop}
    (nil : ∀ {f}, Ready fuel f [] → motive f [])
    (short : ∀ {f ptr}, Ready fuel f ptr → ptr.length < f.room → motive f ptr)
    (full : ∀ {f ptr}, Ready fuel f ptr → ptr ≠ [] → f.room ≤ ptr.length →
      motive (f.next ptr) (ptr.drop f.room) → motive f ptr)
    (h : Ready fuel f ptr) : motive f ptr := by
  -- A chunk uses up one iteration, so the induction is on a bound below `fuel`.
  have hall : ∀ n, n ≤ fuel → ∀ {f ptr}, Ready n f ptr → motive f ptr := by
    intro n
    induction n with
    | zero =>
        intro _ f ptr h
        exact absurd h.fuel (Nat.not_lt_zero _)
    | succ n ih =>
        intro hn f ptr h
        by_cases hne : ptr = []
        · subst hne
          exact nil (h.mono hn)
        by_cases hshort : ptr.length < f.room
        · exact short (h.mono hn) hshort
        · exact full (h.mono hn) hne (Nat.le_of_not_lt hshort) (ih (by omega) (h.next hne))
  exact hall fuel (Nat.le_refl _) h

/-- The bound on the iterations does not matter as long as it suffices. -/
theorem writeAll_fuel (h : Ready fuel f ptr) {n : Nat} (hn : Ready n f ptr) :
    writeAll n ptr f = writeAll fuel ptr f := by
  induction n generalizing f ptr fuel with
  | zero => exact absurd hn.fuel (Nat.not_lt_zero _)
  | succ n ih =>
      obtain ⟨m, rfl⟩ := h.exists_succ
      by_cases hne : ptr = []
      · rw [hne, writeAll_nil, writeAll_nil]
      by_cases hshort : ptr.length < f.room
      · rw [writeAll_succ_short h.within h.length hshort hn.fuel,
          writeAll_succ_short h.within h.length hshort h.fuel]
      have hfull : f.room ≤ ptr.length := Nat.le_of_not_lt hshort
      rw [writeAll_succ_full hne h.within h.length hfull,
        writeAll_succ_full hne h.within h.length hfull]
      refine congrArg (Prog.op _) (funext fun (status : Int) => ?_)
      by_cases hstatus : status = 0
      · rw [if_neg (not_not.2 hstatus), if_neg (not_not.2 hstatus)]
        exact ih (h.next hne) (hn.next hne)
      · rw [if_pos hstatus, if_pos hstatus]

theorem Ready.writeAll_short (h : Ready fuel f ptr) (hshort : ptr.length < f.room) :
    writeAll fuel ptr f = .ret (0, f.accept ptr) :=
  writeAll_succ_short h.within h.length hshort h.fuel

theorem Ready.writeAll_nil (h : Ready fuel f []) : writeAll fuel [] f = .ret (0, f) := by
  obtain ⟨n, rfl⟩ := h.exists_succ
  rfl

theorem Ready.writeAll_full (h : Ready fuel f ptr) (hne : ptr ≠ []) (hfull : f.room ≤ ptr.length) :
    writeAll fuel ptr f =
      .op (.writeFile f.file (pending f ++ ptr.take f.room)) fun (status : Int) =>
        if status ≠ 0 then .ret (status, f.accept (ptr.take f.room))
        else writeAll fuel (ptr.drop f.room) (f.next ptr) := by
  obtain ⟨n, rfl⟩ := h.exists_succ
  have hnext := h.next hne
  rw [writeAll_succ_full hne h.within h.length hfull,
    ← writeAll_fuel (hnext.mono (Nat.le_succ n)) hnext]
  rfl

end Middleware
end SdioFat32
