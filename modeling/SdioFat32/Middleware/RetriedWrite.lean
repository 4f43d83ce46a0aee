import SdioFat32.Middleware.ChunkedWrite

/-!
# RetriedWrite — `sd_fat32_write` repeated until it returns 0

A write that fails has kept the chunk it could not write, and every chunk before it, but its
status does not say so; a caller that repeats the call writes these bytes again.  The repetition
is harmless only if the failed calls had nothing to keep: the handle was full already, and the
write of the full buffer was the call that failed.
-/

namespace SdioFat32
namespace Middleware

open Effects Cells BufferedFile
open SdFat32File

/-! ## A library with given results -/

/-- What is on the card, and the results of the writes to come; all later ones are 0. -/
structure ScriptedState where
  appended : List Byte
  results : List Int

/-- A write that does not return 0 appends nothing. -/
def scriptedLibrary : Env FatEvent FatEvent.Response ScriptedState where
  step s e r s' :=
    match e, r with
    | .writeFile _ bytes, (status : Int) =>
        status = s.results.headD 0 ∧
          s' = { appended := if status = 0 then s.appended ++ bytes else s.appended
                 results := s.results.tail }
    | .openFile _ _, _ => s' = s
    | .closeFile _, _ => s' = s

/-- The bytes on the card and in the buffer. -/
def stored (f : SdFat32File) (s : ScriptedState) : List Byte := s.appended ++ pending f

/-- Repeat `sd_fat32_write` with the same data until it returns 0. -/
def writeUntilAccepted (fuel attempts : Nat) (data : List Byte) : FileProc Unit :=
  Proc.iter (fun _ => do
    let status ← writeAll fuel data
    if status = 0 then
      return .inr ()
    return .inl ()) attempts ()

def retriedWrite (fuel attempts : Nat) (data : List Byte) : FileProc Int := do
  writeUntilAccepted fuel attempts data
  sdFat32Flush

/-! ## When no write fails -/

/-- The chunks that `data` fills up. -/
def fullChunks (f : SdFat32File) (data : List Byte) : Nat :=
  if data = [] then 0 else (f.index.toNat + data.length) / 2560

/-- The next `k` writes succeed. -/
def Unbroken (k : Nat) (results : List Int) : Prop := ∀ status ∈ results.take k, status = 0

variable {D : ScriptedState → Prop} {fuel attempts k : Nat} {f f' : SdFat32File}
  {s s' : ScriptedState} {data ptr : List Byte} {results : List Int}

theorem unbroken_zero (results : List Int) : Unbroken 0 results := by
  intro status hmem
  simp at hmem

theorem unbroken_succ :
    Unbroken (k + 1) results ↔ results.headD 0 = 0 ∧ Unbroken k results.tail := by
  cases results with
  | nil => simp [Unbroken]
  | cons status results => simp [Unbroken]

/-- Failures that an unbroken series of writes could begin with are none. -/
theorem Unbroken.dropWhile (h : Unbroken k results) :
    Unbroken k (results.dropWhile (· ≠ 0)) := by
  cases k with
  | zero => exact unbroken_zero _
  | succ k =>
      have hhead := (unbroken_succ.1 h).1
      cases results with
      | nil => exact h
      | cons status results =>
          have hzero : status = 0 := hhead
          rw [List.dropWhile_cons_of_neg (by simp [hzero])]
          exact h

theorem fullChunks_short (hf : Within f) (hshort : ptr.length < f.room) : fullChunks f ptr = 0 := by
  have hwithin : f.index.toNat ≤ 2560 := hf
  rw [room] at hshort
  rw [fullChunks]
  split
  · rfl
  · omega

theorem fullChunks_full (hf : Within f) (hne : ptr ≠ []) (hfull : f.room ≤ ptr.length) :
    fullChunks f ptr = fullChunks (f.next ptr) (ptr.drop f.room) + 1 := by
  have hwithin : f.index.toNat ≤ 2560 := hf
  have hindex : (f.next ptr).index.toNat = 0 := rfl
  have hpos := List.length_pos_iff.2 hne
  rw [fullChunks, fullChunks, if_neg hne, hindex, List.length_drop]
  rw [room] at hfull ⊢
  split
  · rename_i hnil
    have hlen := congrArg List.length hnil
    rw [List.length_drop, List.length_nil] at hlen
    omega
  · omega

/-! ## One attempt -/

/-- What a failed attempt has changed: nothing but a used up result, or it kept some bytes. -/
def Kept (f : SdFat32File) (s : ScriptedState) (status : Int) (f' : SdFat32File)
    (s' : ScriptedState) : Prop :=
  (f.index = sdFat32BufferSize ∧ stored f' s' = stored f s ∧ s.results = status :: s'.results) ∨
    ∃ kept, kept ≠ [] ∧ stored f' s' = stored f s ++ kept ∧
      (f.index = sdFat32BufferSize → s.results.headD 0 = 0)

/-- How an attempt ends. -/
def Attempted (f : SdFat32File) (data : List Byte) (s : ScriptedState) (status : Int)
    (f' : SdFat32File) (s' : ScriptedState) : Prop :=
  Within f' ∧
    ((status = 0 ∧ stored f' s' = stored f s ++ data ∧ Unbroken (fullChunks f data) s.results) ∨
      (status ≠ 0 ∧ f'.index = sdFat32BufferSize ∧ ¬Unbroken (fullChunks f data) s.results ∧
        s'.results.length < s.results.length ∧ Kept f s status f' s'))

theorem attempted_of_short (hf : Within f) (hshort : ptr.length < f.room) :
    Attempted f ptr s 0 (f.accept ptr) s := by
  have hle := Nat.le_of_lt hshort
  refine ⟨within_accept hf hle, Or.inl ⟨rfl, ?_, ?_⟩⟩
  · rw [stored, stored, pending_accept hf hle, List.append_assoc]
  · rw [fullChunks_short hf hshort]
    exact unbroken_zero _

theorem attempted_nil (hf : Within f) : Attempted f [] s 0 f s := by
  refine ⟨hf, Or.inl ⟨rfl, (List.append_nil _).symm, ?_⟩⟩
  rw [fullChunks, if_pos rfl]
  exact unbroken_zero _

/-- The first chunk cannot be written. -/
theorem attempted_of_failed (hf : Within f) (hne : ptr ≠ []) (hfull : f.room ≤ ptr.length)
    {status : Int} (hstatus : status ≠ 0) (hhead : status = s.results.headD 0) :
    Attempted f ptr s status (f.accept (ptr.take f.room))
      { appended := s.appended, results := s.results.tail } := by
  have htake : (ptr.take f.room).length ≤ f.room := List.length_take_le _ _
  have hresults : s.results = status :: s.results.tail := by
    cases hcons : s.results with
    | nil =>
        rw [hcons] at hhead
        exact absurd hhead hstatus
    | cons first results =>
        rw [hcons] at hhead
        have hfirst : status = first := hhead
        rw [hfirst, List.tail_cons]
  have hstored : stored (f.accept (ptr.take f.room))
      { appended := s.appended, results := s.results.tail } = stored f s ++ ptr.take f.room := by
    rw [stored, stored, pending_accept hf htake, List.append_assoc]
  refine ⟨within_accept hf htake, Or.inr ⟨hstatus, (index_accept_full_iff hf).2 hfull, ?_, ?_, ?_⟩⟩
  · rw [fullChunks_full hf hne hfull, unbroken_succ, ← hhead]
    exact fun h => hstatus h.1
  · have hlen := congrArg List.length hresults
    rw [List.length_cons] at hlen
    dsimp only
    omega
  · -- A handle that was full has taken nothing, any other one the chunk that did not go out.
    by_cases hroom : f.room = 0
    · refine Or.inl ⟨(index_full_iff hf).2 hroom, ?_, hresults⟩
      rw [hstored, hroom, List.take_zero, List.append_nil]
    · refine Or.inr ⟨ptr.take f.room, ?_, hstored, ?_⟩
      · rw [ne_eq, List.take_eq_nil_iff]
        exact fun h => h.elim hroom hne
      · intro hindex
        exact absurd ((index_full_iff hf).1 hindex) hroom

/-- The first chunk is written. -/
theorem attempted_of_written (hf : Within f) (hne : ptr ≠ []) (hfull : f.room ≤ ptr.length)
    (hhead : 0 = s.results.headD 0) {status : Int}
    (h : Attempted (f.next ptr) (ptr.drop f.room)
      { appended := s.appended ++ (pending f ++ ptr.take f.room), results := s.results.tail }
      status f' s') : Attempted f ptr s status f' s' := by
  have hbase : stored (f.next ptr)
      { appended := s.appended ++ (pending f ++ ptr.take f.room), results := s.results.tail } =
      stored f s ++ ptr.take f.room := by
    rw [stored, SdFat32File.next, pending_emptied, List.append_nil, stored, List.append_assoc]
  have hchunks := fullChunks_full hf hne hfull
  rcases h with ⟨hwithin, ⟨hstatus, hstored, hunbroken⟩ | ⟨hstatus, hindex, hbroken, hless, hkept⟩⟩
  · refine ⟨hwithin, Or.inl ⟨hstatus, ?_, ?_⟩⟩
    · rw [hstored, hbase, List.append_assoc, List.take_append_drop]
    · rw [hchunks, unbroken_succ]
      exact ⟨hhead.symm, hunbroken⟩
  · have htail : s.results.tail.length ≤ s.results.length := by
      rw [List.length_tail]
      exact Nat.sub_le _ _
    refine ⟨hwithin, Or.inr ⟨hstatus, hindex, ?_, Nat.lt_of_lt_of_le hless htail, ?_⟩⟩
    · rw [hchunks, unbroken_succ]
      exact fun h => hbroken h.2
    · -- The next chunk starts in an empty buffer, so the failed one held some bytes.
      rcases hkept with ⟨hzero, _, _⟩ | ⟨kept, hne', hstored, _⟩
      · have hempty : (0#32 : BitVec 32) ≠ sdFat32BufferSize := by decide
        exact absurd hzero hempty
      · refine Or.inr ⟨ptr.take f.room ++ kept, ?_, ?_, fun _ => hhead.symm⟩
        · exact List.append_ne_nil_of_right_ne_nil _ hne'
        · rw [hstored, hbase, List.append_assoc]

theorem wp_writeAll_scripted (h : Ready fuel f data) :
    (writeAll fuel data).wp scriptedLibrary D (fun status f' s' => Attempted f data s status f' s')
      f s := by
  refine chunk_induction (motive := fun f data => ∀ s,
    (writeAll fuel data).wp scriptedLibrary D
      (fun status f' s' => Attempted f data s status f' s') f s) ?_ ?_ ?_ h s
  · intro f hnil s
    rw [Proc.wp, hnil.writeAll_nil]
    exact attempted_nil hnil.within
  · intro f ptr h hshort s
    rw [Proc.wp, h.writeAll_short hshort]
    exact attempted_of_short h.within hshort
  · intro f ptr h hne hfull ih s
    rw [Proc.wp, h.writeAll_full hne hfull]
    refine ⟨trivial, ?_⟩
    rintro (status : Int) s₁ ⟨hhead, rfl⟩
    -- The chunk has gone out and the loop goes on, or the call ends with the status.
    by_cases hstatus : status = 0
    · subst hstatus
      refine Prog.wp_mono (ih _) ?_
      intro x s' hx
      exact attempted_of_written h.within hne hfull hhead hx
    · rw [if_neg hstatus]
      dsimp only
      rw [if_pos hstatus]
      exact attempted_of_failed h.within hne hfull hstatus hhead

/-! ## All attempts -/

/-- Of the writes that fill a buffer none fails, failures at the start not counted if the handle is
full to begin with. -/
def FailsOnlyAtFullHandle (f : SdFat32File) (data : List Byte) (results : List Int) : Prop :=
  Unbroken (fullChunks f data)
    (if f.index = sdFat32BufferSize then results.dropWhile (· ≠ 0) else results)

/-- Between two attempts: the failed ones have kept `extra`. -/
structure Retrying (data : List Byte) (f₀ : SdFat32File) (s₀ : ScriptedState) (extra : List Byte)
    (f : SdFat32File) (s : ScriptedState) : Prop where
  within : Within f
  bytes : stored f s = stored f₀ s₀ ++ extra
  nothing : extra = [] →
    (FailsOnlyAtFullHandle f data s.results ↔ FailsOnlyAtFullHandle f₀ data s₀.results)
  something : extra ≠ [] → ¬FailsOnlyAtFullHandle f₀ data s₀.results

variable {f₀ : SdFat32File} {s₀ : ScriptedState} {extra : List Byte} {status : Int}

theorem failsOnlyAtFullHandle_of_unbroken (h : Unbroken (fullChunks f data) results) :
    FailsOnlyAtFullHandle f data results := by
  unfold FailsOnlyAtFullHandle
  split
  · exact h.dropWhile
  · exact h

/-- An attempt that kept something and failed after all. -/
theorem not_failsOnlyAtFullHandle (hbroken : ¬Unbroken (fullChunks f data) results)
    (hhead : f.index = sdFat32BufferSize → results.headD 0 = 0) :
    ¬FailsOnlyAtFullHandle f data results := by
  unfold FailsOnlyAtFullHandle
  split
  · rename_i hfull
    have hzero := hhead hfull
    cases results with
    | nil => exact hbroken
    | cons status results =>
        have hstatus : status = 0 := hzero
        rw [List.dropWhile_cons_of_neg (by simp [hstatus])]
        exact hbroken
  · exact hbroken

/-- A used up failure of a full handle does not matter. -/
theorem failsOnlyAtFullHandle_cons (hstatus : status ≠ 0) (hfull : f.index = sdFat32BufferSize)
    (hfull' : f'.index = sdFat32BufferSize) :
    FailsOnlyAtFullHandle f' data results ↔ FailsOnlyAtFullHandle f data (status :: results) := by
  have hchunks : fullChunks f' data = fullChunks f data := by
    rw [fullChunks, fullChunks, hfull, hfull']
  unfold FailsOnlyAtFullHandle
  rw [if_pos hfull, if_pos hfull', hchunks, List.dropWhile_cons_of_pos (by simp [hstatus])]

theorem Retrying.failed (h : Retrying data f₀ s₀ extra f s)
    (hattempt : Attempted f data s status f' s') (hstatus : status ≠ 0) :
    s'.results.length < s.results.length ∧ ∃ extra', Retrying data f₀ s₀ extra' f' s' := by
  rcases hattempt with ⟨hwithin, ⟨hzero, _⟩ | ⟨_, hindex, hbroken, hless, hkept⟩⟩
  · exact absurd hzero hstatus
  refine ⟨hless, ?_⟩
  rcases hkept with ⟨hfull, hstored, hresults⟩ | ⟨kept, hne, hstored, hhead⟩
  · -- Nothing was kept, and the condition does not count the failure.
    refine ⟨extra, hwithin, hstored.trans h.bytes, ?_, h.something⟩
    intro hnothing
    rw [← h.nothing hnothing, hresults]
    exact failsOnlyAtFullHandle_cons hstatus hfull hindex
  · refine ⟨extra ++ kept, hwithin, ?_, ?_, ?_⟩
    · rw [hstored, h.bytes, List.append_assoc]
    · intro hnothing
      exact absurd (List.append_eq_nil_iff.1 hnothing).2 hne
    · intro _
      by_cases hnothing : extra = []
      · rw [← h.nothing hnothing]
        exact not_failsOnlyAtFullHandle hbroken hhead
      · exact h.something hnothing

/-- The data is stored once if and only if the failed attempts kept nothing. -/
theorem Retrying.accepted (h : Retrying data f₀ s₀ extra f s)
    (hattempt : Attempted f data s 0 f' s') :
    Within f' ∧ (stored f' s' = stored f₀ s₀ ++ data ↔
      FailsOnlyAtFullHandle f₀ data s₀.results) := by
  rcases hattempt with ⟨hwithin, ⟨_, hstored, hunbroken⟩ | ⟨hne, _⟩⟩
  · refine ⟨hwithin, ?_⟩
    have hclean := failsOnlyAtFullHandle_of_unbroken hunbroken
    rw [hstored, h.bytes]
    by_cases hnothing : extra = []
    · refine iff_of_true ?_ ((h.nothing hnothing).1 hclean)
      rw [hnothing, List.append_nil]
    · -- The extra bytes make the stream too long.
      refine iff_of_false ?_ (h.something hnothing)
      intro heq
      have hlen := congrArg List.length heq
      simp only [List.length_append] at hlen
      exact hnothing (List.eq_nil_of_length_eq_zero (by omega))
  · exact absurd rfl hne

theorem wp_writeUntilAccepted (hf : Within f) (hlen : data.length < 2 ^ 32)
    (hfuel : data.length + 1 < fuel) (hattempts : s.results.length < attempts) :
    (writeUntilAccepted fuel attempts data).wp scriptedLibrary D
      (fun _ f' s' => Within f' ∧
        (stored f' s' = stored f s ++ data ↔ FailsOnlyAtFullHandle f data s.results)) f s := by
  have hstart : Retrying data f s [] f s :=
    ⟨hf, (List.append_nil _).symm, fun _ => Iff.rfl, fun hne => absurd rfl hne⟩
  unfold writeUntilAccepted
  -- Every failed attempt uses up one of the results to come.
  refine Proc.wp_iter_total (fun _ f' s' => ∃ extra, Retrying data f s extra f' s')
    (fun _ _ s' => s'.results.length) ?_ attempts ⟨[], hstart⟩ hattempts
  rintro _ f₁ s₁ ⟨extra, hretrying⟩
  refine Proc.wp_seq (wp_writeAll_scripted (ready_of_length hretrying.within hlen hfuel)) ?_
  intro status f₂ s₂ hattempt
  split
  · rename_i hzero
    subst hzero
    exact hretrying.accepted hattempt
  · rename_i hstatus
    rcases hretrying.failed hattempt hstatus with ⟨hless, hnext⟩
    exact ⟨hnext, hless⟩

/-- A flush that returns 0 leaves everything on the card. -/
theorem wp_sdFat32Flush_scripted (f : SdFat32File) (s : ScriptedState) :
    sdFat32Flush.wp scriptedLibrary D (fun status _ s' => status = 0 → s'.appended = stored f s)
      f s := by
  unfold sdFat32Flush
  simp only [Proc.wp_bind, Proc.wp_globals]
  split
  · simp only [Proc.wp_bind]
    refine Proc.wp_perform.2 ⟨trivial, ?_⟩
    rintro (status : Int) s₁ ⟨_, rfl⟩
    split
    · rename_i hfailed
      exact fun hzero => absurd hzero hfailed
    · rename_i hok
      have hstatus : status = 0 := not_not.1 hok
      subst hstatus
      exact fun _ => rfl
  · rename_i hempty
    intro _
    have hindex : f.index.toNat = 0 := by
      have hzero : ¬0 < f.index.toNat := hempty
      omega
    simp [stored, pending, hindex]

theorem wp_retriedWrite (hf : Within f) (hlen : data.length < 2 ^ 32)
    (hfuel : data.length + 1 < fuel) (hattempts : s.results.length < attempts) :
    (retriedWrite fuel attempts data).wp scriptedLibrary (fun _ => False)
      (fun status _ s' => status = 0 →
        (s'.appended = stored f s ++ data ↔ FailsOnlyAtFullHandle f data s.results)) f s := by
  unfold retriedWrite
  refine Proc.wp_seq (wp_writeUntilAccepted hf hlen hfuel hattempts) ?_
  rintro _ f₁ s₁ ⟨_, haccepted⟩
  refine Proc.wp_mono (wp_sdFat32Flush_scripted f₁ s₁) ?_
  intro status _ s₂ hflushed hstatus
  rw [hflushed hstatus]
  exact haccepted

/-- The repetition comes to an end.  If the flush after it returns 0, the data is on the card
exactly once if and only if writes fail at a handle that is full from the start at most. -/
theorem retried_write_once_iff (hf : Within f) (hlen : data.length < 2 ^ 32)
    (hfuel : data.length + 1 < fuel) (hattempts : s.results.length < attempts) :
    (∀ s', ¬Reaches scriptedLibrary (retriedWrite fuel attempts data f) s .spin s') ∧
      ∀ f' s', Runs scriptedLibrary (retriedWrite fuel attempts data f) s (0, f') s' →
        (s'.appended = s.appended ++ pending f ++ data ↔
          FailsOnlyAtFullHandle f data s.results) := by
  have hwp := wp_retriedWrite hf hlen hfuel hattempts
  refine ⟨fun s' hreach => Prog.wp_not_spin hwp hreach, ?_⟩
  intro f' s' hrun
  exact Proc.wp_runs hwp hrun rfl

/-! ## A library that answers a script -/

def scripted (s : ScriptedState) : (e : FatEvent) → FatEvent.Response e × ScriptedState
  | .openFile _ _ => ((0, 1), s)
  | .writeFile _ bytes =>
      (s.results.headD 0,
        { appended := if s.results.headD 0 = 0 then s.appended ++ bytes else s.appended
          results := s.results.tail })
  | .closeFile _ => ((0, 0), s)

theorem scripted_allowed (s : ScriptedState) (e : FatEvent) :
    scriptedLibrary.step s e (scripted s e).1 (scripted s e).2 := by
  cases e with
  | openFile path mode => rfl
  | writeFile file bytes => exact ⟨rfl, rfl⟩
  | closeFile file => rfl

/-- A handle whose filled part has `n` bytes. -/
def handleAt (n : BitVec 32) : SdFat32File := { blankHandle with index := n }

/-- The first write of the library fails. -/
def failingOnce : ScriptedState where
  appended := []
  results := [5]

/-- One byte for a full handle. -/
theorem retried_write_once_full_handle :
    ∃ f' s', Runs scriptedLibrary (retriedWrite 3 2 [0x41#8] (handleAt 2560#32)) failingOnce
        (0, f') s' ∧
      (s'.appended = failingOnce.appended ++ pending (handleAt 2560#32) ++ [0x41#8] ↔
        FailsOnlyAtFullHandle (handleAt 2560#32) [0x41#8] failingOnce.results) := by
  have hexec : ((retriedWrite 3 2 [0x41#8] (handleAt 2560#32)).exec scripted failingOnce).map
      (fun x => x.1.1) = some 0 := by
    decide +kernel
  rcases Prog.exec_returns scripted_allowed hexec with ⟨f', s', hruns⟩
  have hwithin : Within (handleAt 2560#32) := Nat.le_refl 2560
  exact ⟨f', s', hruns,
    (retried_write_once_iff hwithin (by decide) (by decide) (by decide)).2 f' s' hruns⟩

/-- One byte that fills the buffer: it is stored twice. -/
theorem retried_write_twice :
    ∃ f' s', Runs scriptedLibrary (retriedWrite 3 2 [0x41#8] (handleAt 2559#32)) failingOnce
        (0, f') s' ∧
      s'.appended ≠ failingOnce.appended ++ pending (handleAt 2559#32) ++ [0x41#8] := by
  have hexec : ((retriedWrite 3 2 [0x41#8] (handleAt 2559#32)).exec scripted failingOnce).map
      (fun x => x.1.1) = some 0 := by
    decide +kernel
  rcases Prog.exec_returns scripted_allowed hexec with ⟨f', s', hruns⟩
  have hwithin : Within (handleAt 2559#32) := by
    simp [Within, handleAt]
  have honce := Proc.wp_runs
    (wp_retriedWrite hwithin (by decide) (by decide) (by decide)) hruns rfl
  refine ⟨f', s', hruns, ?_⟩
  intro heq
  -- The one write that fills the buffer is the one that fails.
  have hfails := honce.1 heq 5 (by decide)
  exact absurd hfails (by decide)

end Middleware
end SdioFat32
