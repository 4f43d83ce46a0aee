import SdioFat32.Middleware.BufferedFile

/-!
# Durability — from `sd_fat32_open` to `sd_fat32_close`

The FAT32 library is assumed to append all bytes of a `write_file_fat32` call that returns 0 and
none of a call that does not.  What a handle stands for is its `content`: the bytes appended so
far followed by the filled part of its buffer.  Writing extends the content, flushing keeps it,
and a call fails only if `write_file_fat32` did — except `sd_fat32_close`, which drops the status
of its flush.  So a session of calls that all return 0 has everything on the card exactly when no
`write_file_fat32` call failed.
-/

namespace SdioFat32
namespace Middleware

open Effects Cells BufferedFile

/-- What the library has done so far. -/
structure FatState where
  appended : List Byte
  failed : Bool

/-- Any answers to `open` and `close`; a write appends all or nothing. -/
def fatLibrary : Env FatEvent FatEvent.Response FatState where
  step s e r s' :=
    match e, r with
    | .writeFile _ bytes, (status : Int) =>
        (status = 0 ∧ s' = { s with appended := s.appended ++ bytes }) ∨
          (status ≠ 0 ∧ s' = { s with failed := true })
    | .openFile _ _, _ => s' = s
    | .closeFile _, _ => s' = s

/-! ## Sessions -/

inductive FileCall where
  | write (data : List Byte)
  | flush

def FileCall.data : FileCall → List Byte
  | .write data => data
  | .flush => []

def FileCall.run (fuel : Nat) : FileCall → FileProc Int
  | .write data => sdFat32Write fuel data (BitVec.ofNat 32 data.length)
  | .flush => sdFat32Flush

/-- The calls in order, with their statuses. -/
def runFileCalls (fuel : Nat) : List FileCall → FileProc (List Int)
  | [] => return []
  | c :: cs => do
      let status ← c.run fuel
      let rest ← runFileCalls fuel cs
      return status :: rest

def fileSession (fuel : Nat) (path : String) (mode : Int) (cs : List FileCall) :
    FileProc (List Int) := do
  let opened ← sdFat32Open path mode
  let statuses ← runFileCalls fuel cs
  let closed ← sdFat32Close
  return opened :: (statuses ++ [closed])

/-! ## What a handle stands for -/

/-- The bytes accepted so far: on the card, then in the buffer. -/
def content (f : SdFat32File) (s : FatState) : List Byte :=
  s.appended ++ front f.buffer f.index.toNat

/-- The bytes the buffer still holds. -/
def pending (f : SdFat32File) : List Byte :=
  front f.buffer f.index.toNat

def Within (f : SdFat32File) : Prop := f.index.toNat ≤ 2560

variable {D : FatState → Prop} {f f' : SdFat32File} {s s' : FatState}

theorem wp_writeFileFat32 {Q : Int → SdFat32File → FatState → Prop} {file : Nat}
    {bytes : List Byte}
    (hok : Q 0 f { s with appended := s.appended ++ bytes })
    (hfail : ∀ status : Int, status ≠ 0 → Q status f { s with failed := true }) :
    (writeFileFat32 file bytes).wp fatLibrary D Q f s := by
  refine ⟨trivial, ?_⟩
  intro r s' hstep
  rcases hstep with ⟨hr, hs⟩ | ⟨hr, hs⟩
  · have hr' : r = (0 : Int) := hr
    subst hr' hs
    exact hok
  · subst hs
    exact hfail r hr

/-- A flush keeps the content; it empties the buffer or reports the failed write. -/
theorem wp_sdFat32Flush (hf : Within f) :
    sdFat32Flush.wp fatLibrary D
      (fun status f' s' => content f' s' = content f s ∧ Within f' ∧
        ((status = 0 ∧ pending f' = [] ∧ s'.failed = s.failed) ∨
          (status ≠ 0 ∧ pending f' ≠ [] ∧ s'.failed = true))) f s := by
  unfold sdFat32Flush
  simp only [Proc.wp_bind, Proc.wp_globals]
  split
  · rename_i hpos
    -- Something is buffered, so a failed write leaves it pending.
    have hlen : pending f ≠ [] := by
      refine List.ne_nil_of_length_pos ?_
      have : 0 < f.index.toNat := hpos
      simp only [pending, length_front]
      omega
    simp only [Proc.wp_bind]
    refine wp_writeFileFat32 ?_ ?_
    · simp [content, pending, Within]
    · intro status hstatus
      simpa [hstatus, content] using ⟨hf, hlen⟩
  · rename_i hzero
    have hindex : f.index.toNat = 0 := by
      have : ¬0 < f.index.toNat := hzero
      omega
    simp [pending, Within, hindex]

/-! ## The write loop -/

/-- The accepted content and the rest still to be copied make up what was asked for. -/
structure Copying (target : List Byte) (failed : Bool) (rest : BitVec 32 × List Byte)
    (f : SdFat32File) (s : FatState) : Prop where
  length : rest.1.toNat = rest.2.length
  within : Within f
  bytes : content f s ++ rest.2 = target
  unfailed : s.failed = failed

/-- Copying `k` bytes into the space left moves them from the rest to the content. -/
theorem Copying.copy {target : List Byte} {failed : Bool} {remaining toCopy : BitVec 32}
    {ptr : List Byte} (h : Copying target failed (remaining, ptr) f s)
    (hle : toCopy.toNat ≤ remaining.toNat) (hspace : f.index.toNat + toCopy.toNat ≤ 2560) :
    Copying target failed (remaining - toCopy, ptr.drop toCopy.toNat)
      { f with
        buffer := copyInto f.buffer f.index.toNat (ptr.take toCopy.toNat)
        index := f.index + toCopy } s := by
  have hlen : remaining.toNat = ptr.length := h.length
  have htake : (ptr.take toCopy.toNat).length = toCopy.toNat := by
    rw [List.length_take]
    omega
  have hindex : (f.index + toCopy).toNat = f.index.toNat + toCopy.toNat := by
    rw [BitVec.toNat_add]
    omega
  have hrest : (remaining - toCopy).toNat = remaining.toNat - toCopy.toNat :=
    BitVec.toNat_sub_of_le hle
  -- The space suffices, so the copied bytes stand behind the filled part.
  have hfront : front (copyInto f.buffer f.index.toNat (ptr.take toCopy.toNat))
      (f.index.toNat + toCopy.toNat) = front f.buffer f.index.toNat ++ ptr.take toCopy.toNat := by
    have hcopy := front_copyInto f.buffer f.index.toNat (ptr.take toCopy.toNat)
      (by omega)
    rwa [htake] at hcopy
  refine ⟨?_, ?_, ?_, h.unfailed⟩
  · simp [hrest, hlen]
  · simpa [Within, hindex] using hspace
  · have hbytes := h.bytes
    simp only [content] at hbytes ⊢
    rw [hindex, hfront, ← hbytes]
    simp only [List.append_assoc, List.take_append_drop]

/-- An access inside `buffer`. -/
def InBuffer (x : BufferAccess) : Prop := x.off + x.len ≤ 2560

/-- A bound on the iterations that copy: every one takes from the rest, or starts at a full
buffer and leaves it empty. -/
def effort (rest : BitVec 32 × List Byte) (f : SdFat32File) : Nat :=
  rest.1.toNat + if f.index = sdFat32BufferSize then 1 else 0

theorem wp_watchedWriteFile {Q : Int → SdFat32File → FatState → Prop} {h : SdFat32File} {len : Nat}
    (hlen : len ≤ 2560) (hok : Q 0 f { s with appended := s.appended ++ front h.buffer len })
    (hfail : ∀ status : Int, status ≠ 0 → Q status f { s with failed := true }) :
    (watchedWriteFile h len).wp (fatLibrary.watch InBuffer) D Q f s := by
  have hin : InBuffer { off := 0, len := len } := by simpa [InBuffer] using hlen
  refine Proc.wp_bind.2 (Proc.wp_note.2 ⟨hin, ?_⟩)
  have hwrite : (writeFileFat32 h.file (front h.buffer len)).wp fatLibrary D Q f s :=
    wp_writeFileFat32 hok hfail
  exact Proc.wp_call.2 hwrite

/-- One iteration: it copies inside the buffer, takes from the front of the rest, and comes closer
to the end.  A failed write leaves a tail of the rest out. -/
theorem wp_watchedWriteStep {target : List Byte} {failed : Bool} {rest : BitVec 32 × List Byte}
    (h : Copying target failed rest f s) :
    (watchedWriteStep rest).wp (fatLibrary.watch InBuffer) D
      (fun r f' s' => r.elim
        (fun rest' => Copying target failed rest' f' s' ∧ rest'.2 <:+ rest.2 ∧
          effort rest' f' < effort rest f)
        (fun status => Within f' ∧
          ((status = 0 ∧ content f' s' = target ∧ s'.failed = failed) ∨
            (status ≠ 0 ∧ s'.failed = true ∧
              ∃ left, left <:+ rest.2 ∧ content f' s' ++ left = target)))) f s := by
  rcases rest with ⟨remaining, ptr⟩
  have hlen : remaining.toNat = ptr.length := h.length
  have hwithin : f.index.toNat ≤ 2560 := h.within
  unfold watchedWriteStep
  dsimp only
  split
  · rename_i hpos
    have hpos : 0 < remaining.toNat := hpos
    simp only [Proc.wp_bind, Proc.wp_globals, Proc.wp_assign, Proc.wp_note]
    have hspace : (sdFat32BufferSize - f.index).toNat = 2560 - f.index.toNat :=
      BitVec.toNat_sub_of_le hwithin
    -- `toCopy` fits both what remains and the space left, and uses one of them up.
    generalize htoCopy : (if remaining < sdFat32BufferSize - f.index then remaining
      else sdFat32BufferSize - f.index) = toCopy
    have hfit : toCopy.toNat ≤ remaining.toNat ∧ f.index.toNat + toCopy.toNat ≤ 2560 ∧
        (toCopy.toNat = 0 → f.index.toNat = 2560) := by
      subst htoCopy
      split
      · rename_i hlt
        have : remaining.toNat < (sdFat32BufferSize - f.index).toNat := hlt
        omega
      · rename_i hge
        have : ¬remaining.toNat < (sdFat32BufferSize - f.index).toNat := hge
        omega
    have hcopied := h.copy hfit.1 hfit.2.1
    have hsuffix : ptr.drop toCopy.toNat <:+ ptr := List.drop_suffix _ _
    have hless : remaining.toNat - toCopy.toNat <
        remaining.toNat + if f.index = sdFat32BufferSize then 1 else 0 := by
      by_cases hzero : toCopy.toNat = 0
      · have hfull : f.index = sdFat32BufferSize := BitVec.eq_of_toNat_eq (hfit.2.2 hzero)
        rw [if_pos hfull]
        omega
      · split <;> omega
    have hrest : (remaining - toCopy).toNat = remaining.toNat - toCopy.toNat :=
      BitVec.toNat_sub_of_le hfit.1
    refine ⟨hfit.2.1, ?_⟩
    split
    · rename_i hfull
      have hindex : (f.index + toCopy).toNat = 2560 := congrArg BitVec.toNat hfull
      simp only [Proc.wp_bind]
      refine wp_watchedWriteFile (Nat.le_refl _) ?_ ?_
      · -- The full buffer went to the card: the content moved, the buffer starts again.
        have hbytes := hcopied.bytes
        simp only [content, hindex] at hbytes
        refine ⟨⟨hcopied.length, by simp [Within], ?_, hcopied.unfailed⟩, hsuffix, ?_⟩
        · simpa [content] using hbytes
        · have hempty : (0#32 : BitVec 32) ≠ sdFat32BufferSize := by decide
          simpa [effort, hrest, hempty] using hless
      · intro status hstatus
        simp only [hstatus, ne_eq, not_false_eq_true, if_true]
        exact ⟨hcopied.within, Or.inr ⟨hstatus, rfl, _, hsuffix, hcopied.bytes⟩⟩
    · rename_i hroom
      refine ⟨hcopied, hsuffix, ?_⟩
      simpa [effort, hrest, hroom] using hless
  · -- Nothing remains: the content is all that was asked for.
    rename_i hzero
    have hnil : ptr = [] := by
      have : ¬0 < remaining.toNat := hzero
      exact List.eq_nil_of_length_eq_zero (by omega)
    have hbytes := h.bytes
    rw [hnil, List.append_nil] at hbytes
    exact ⟨h.within, Or.inl ⟨rfl, hbytes, h.unfailed⟩⟩

theorem wp_writeStep {target : List Byte} {failed : Bool} {rest : BitVec 32 × List Byte}
    (h : Copying target failed rest f s) :
    (writeStep rest).wp fatLibrary D
      (fun r f' s' => r.elim (fun rest' => Copying target failed rest' f' s')
        (fun status => Within f' ∧
          ((status = 0 ∧ content f' s' = target ∧ s'.failed = failed) ∨
            (status ≠ 0 ∧ s'.failed = true)))) f s := by
  rw [← unwatch_writeStep]
  refine Proc.wp_mono (Proc.wp_unwatch (wp_watchedWriteStep h)) ?_
  rintro (rest' | status) f' s' hpost
  · exact hpost.1
  · rcases hpost with ⟨hwithin, hok | ⟨hstatus, hfailed, _⟩⟩
    · exact ⟨hwithin, Or.inl hok⟩
    · exact ⟨hwithin, Or.inr ⟨hstatus, hfailed⟩⟩

/-- A write that returns 0 has accepted all of its data; one that does not has seen a failure. -/
theorem wp_sdFat32Write {fuel : Nat} {data : List Byte} (hdata : data.length < 2 ^ 32)
    (hf : Within f) :
    (sdFat32Write fuel data (BitVec.ofNat 32 data.length)).wp fatLibrary (fun _ => True)
      (fun status f' s' => Within f' ∧
        ((status = 0 ∧ content f' s' = content f s ++ data ∧ s'.failed = s.failed) ∨
          (status ≠ 0 ∧ s'.failed = true))) f s := by
  have hstart : Copying (content f s ++ data) s.failed (BitVec.ofNat 32 data.length, data) f s :=
    { length := by
        simp only [BitVec.toNat_ofNat]
        exact Nat.mod_eq_of_lt hdata
      within := hf
      bytes := rfl
      unfailed := rfl }
  unfold sdFat32Write
  exact Proc.wp_iter (fun rest f' s' => Copying (content f s ++ data) s.failed rest f' s')
    (fun rest f' s' h => wp_writeStep h) (fun _ _ _ _ => trivial) fuel hstart

/-! ## Whole sessions -/

/-- A call that returns 0 adds its data to the content and leaves no failure behind. -/
theorem wp_fileCall {fuel : Nat} {c : FileCall} (hc : c.data.length < 2 ^ 32) (hf : Within f) :
    (c.run fuel).wp fatLibrary (fun _ => True)
      (fun status f' s' => Within f' ∧
        (status = 0 → content f' s' = content f s ++ c.data ∧ s'.failed = s.failed)) f s := by
  cases c with
  | write data =>
      refine Proc.wp_mono (wp_sdFat32Write hc hf) ?_
      rintro status f' s' ⟨hwithin, hres⟩
      refine ⟨hwithin, fun hstatus => ?_⟩
      rcases hres with ⟨_, hbytes, hfailed⟩ | ⟨hne, _⟩
      · exact ⟨hbytes, hfailed⟩
      · exact absurd hstatus hne
  | flush =>
      refine Proc.wp_mono (wp_sdFat32Flush hf) ?_
      rintro status f' s' ⟨hbytes, hwithin, hres⟩
      refine ⟨hwithin, fun hstatus => ?_⟩
      rcases hres with ⟨_, _, hfailed⟩ | ⟨hne, _⟩
      · exact ⟨by simpa [FileCall.data] using hbytes, hfailed⟩
      · exact absurd hstatus hne

theorem wp_runFileCalls {fuel : Nat} {cs : List FileCall}
    (hcs : ∀ c ∈ cs, c.data.length < 2 ^ 32) (hf : Within f) :
    (runFileCalls fuel cs).wp fatLibrary (fun _ => True)
      (fun statuses f' s' => Within f' ∧
        ((∀ status ∈ statuses, status = 0) →
          content f' s' = content f s ++ (cs.map FileCall.data).flatten ∧
            s'.failed = s.failed)) f s := by
  induction cs generalizing f s with
  | nil => simpa [runFileCalls] using hf
  | cons c cs ih =>
      unfold runFileCalls
      refine Proc.wp_seq (wp_fileCall (hcs c (by simp)) hf) ?_
      rintro status f₁ s₁ ⟨hf₁, hcall⟩
      refine Proc.wp_seq (ih (fun c' hc' => hcs c' (by simp [hc'])) hf₁) ?_
      rintro statuses f₂ s₂ ⟨hf₂, hrest⟩
      refine ⟨hf₂, fun hzero => ?_⟩
      -- All statuses are 0, so this call and the later ones each added their data.
      rcases hcall (hzero status (by simp)) with ⟨hbytes, hfailed⟩
      rcases hrest (fun st hst => hzero st (by simp [hst])) with ⟨hbytes', hfailed'⟩
      exact ⟨by simp [hbytes', hbytes], hfailed'.trans hfailed⟩

theorem wp_sdFat32Open {path : String} {mode : Int} :
    (sdFat32Open path mode).wp fatLibrary D
      (fun _ f' s' => Within f' ∧ content f' s' = s.appended ∧ s' = s) f s := by
  refine ⟨trivial, ?_⟩
  intro r s' hstep
  have hs : s' = s := hstep
  subst hs
  exact ⟨Nat.zero_le _, List.append_nil _, rfl⟩

theorem wp_sdFat32Close (hf : Within f) :
    sdFat32Close.wp fatLibrary D
      (fun _ f' s' => content f' s' = content f s ∧
        ((pending f' = [] ∧ s'.failed = s.failed) ∨ (pending f' ≠ [] ∧ s'.failed = true)))
      f s := by
  unfold sdFat32Close
  refine Proc.wp_seq (wp_sdFat32Flush hf) ?_
  rintro status f₁ s₁ ⟨hbytes, _, hres⟩
  refine ⟨trivial, ?_⟩
  intro r s₂ hstep
  have hs : s₂ = s₁ := hstep
  subst hs
  refine ⟨hbytes, ?_⟩
  rcases hres with ⟨_, hempty, hfailed⟩ | ⟨_, hfull, hfailed⟩
  · exact Or.inl ⟨hempty, hfailed⟩
  · exact Or.inr ⟨hfull, hfailed⟩

theorem wp_fileSession {fuel : Nat} {path : String} {mode : Int} {cs : List FileCall}
    (hcs : ∀ c ∈ cs, c.data.length < 2 ^ 32) :
    (fileSession fuel path mode cs).wp fatLibrary (fun _ => True)
      (fun statuses f' s' => (∀ status ∈ statuses, status = 0) →
        s'.appended ++ pending f' = s.appended ++ (cs.map FileCall.data).flatten ∧
          ((pending f' = [] ∧ s'.failed = s.failed) ∨ (pending f' ≠ [] ∧ s'.failed = true)))
      f s := by
  unfold fileSession
  refine Proc.wp_seq wp_sdFat32Open ?_
  rintro opened f₁ s₁ ⟨hf₁, hcontent₁, rfl⟩
  refine Proc.wp_seq (wp_runFileCalls hcs hf₁) ?_
  rintro statuses f₂ s₂ ⟨hf₂, hcalls⟩
  refine Proc.wp_seq (wp_sdFat32Close hf₂) ?_
  rintro closed f₃ s₃ ⟨hcontent₃, hres⟩ hzero
  rcases hcalls (fun st hst => hzero st (by simp [hst])) with ⟨hcontent₂, hfailed₂⟩
  rw [hfailed₂] at hres
  refine ⟨?_, hres⟩
  calc
    s₃.appended ++ pending f₃ = content f₂ s₂ := hcontent₃
    _ = content f₁ s₁ ++ (cs.map FileCall.data).flatten := hcontent₂
    _ = s₁.appended ++ (cs.map FileCall.data).flatten := by rw [hcontent₁]

/-- In a session whose calls all returned 0, everything written is on the card exactly when no
`write_file_fat32` call failed. -/
theorem durable_iff_no_failed_write {fuel : Nat} {path : String} {mode : Int}
    {cs : List FileCall} (hcs : ∀ c ∈ cs, c.data.length < 2 ^ 32) {f f' : SdFat32File}
    {s' : FatState} {statuses : List Int}
    (hrun : Runs fatLibrary (fileSession fuel path mode cs f) { appended := [], failed := false }
      (statuses, f') s')
    (hzero : ∀ status ∈ statuses, status = 0) :
    s'.appended = (cs.map FileCall.data).flatten ↔ s'.failed = false := by
  rcases Proc.wp_runs (wp_fileSession hcs) hrun hzero with ⟨hbytes, hres⟩
  rw [List.nil_append] at hbytes
  rcases hres with ⟨hempty, hfailed⟩ | ⟨hfull, hfailed⟩
  · rw [hempty, List.append_nil] at hbytes
    simp [hbytes, hfailed]
  · -- The bytes still in the buffer are missing on the card.
    have hne : s'.appended ≠ (cs.map FileCall.data).flatten := by
      rw [← hbytes]
      intro h
      exact hfull (List.self_eq_append_right.1 h)
    simp [hne, hfailed]

/-! ## Runs against a given library -/

/-- A library whose writes all return `status`. -/
def answering (status : Int) (s : FatState) : (e : FatEvent) → FatEvent.Response e × FatState
  | .openFile _ _ => ((0, 1), s)
  | .writeFile _ bytes =>
      (status, if status = 0 then { s with appended := s.appended ++ bytes }
        else { s with failed := true })
  | .closeFile _ => ((0, 0), s)

theorem answering_allowed (status : Int) (s : FatState) (e : FatEvent) :
    fatLibrary.step s e (answering status s e).1 (answering status s e).2 := by
  cases e with
  | openFile path mode => rfl
  | closeFile file => rfl
  | writeFile file bytes =>
      by_cases h : status = 0
      · exact Or.inl ⟨h, by simp [answering, h]⟩
      · exact Or.inr ⟨h, by simp [answering, h]⟩

def blankHandle : SdFat32File :=
  { file := 0
    buffer := Vector.replicate 2560 0#8
    index := 0#32 }

/-- One byte written, the flush of `sd_fat32_close` fails, and every call returned 0. -/
theorem close_loses_buffered_byte :
    ∃ f' s', Runs fatLibrary (fileSession 2 "/LOG.TXT" 1 [.write [0x41#8]] blankHandle)
      { appended := [], failed := false } ([0, 0, 0], f') s' ∧ s'.appended ≠ [0x41#8] := by
  have hrun := Prog.exec_runs (answering_allowed 5)
    (p := fileSession 2 "/LOG.TXT" 1 [.write [0x41#8]] blankHandle)
    (s := { appended := [], failed := false }) rfl
  have hlost : ([] : List Byte) ≠ [0x41#8] := by simp
  exact ⟨_, _, hrun, hlost⟩

/-- The same session on a library that accepts the write. -/
theorem durable_iff_no_failed_write_one_byte :
    ∃ f' s', Runs fatLibrary (fileSession 2 "/LOG.TXT" 1 [.write [0x41#8]] blankHandle)
        { appended := [], failed := false } ([0, 0, 0], f') s' ∧
      (s'.appended = [0x41#8] ↔ s'.failed = false) := by
  have hrun := Prog.exec_runs (answering_allowed 0)
    (p := fileSession 2 "/LOG.TXT" 1 [.write [0x41#8]] blankHandle)
    (s := { appended := [], failed := false }) rfl
  exact ⟨_, _, hrun, durable_iff_no_failed_write (by simp [FileCall.data]) hrun (by simp)⟩

end Middleware
end SdioFat32
