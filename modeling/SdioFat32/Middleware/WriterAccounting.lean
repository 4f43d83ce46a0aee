import SdioFat32.Middleware.Durability

/-!
# WriterAccounting — what `sd_fat32_write` and `sd_fat32_flush` keep of their data

A sequence of calls on one handle, against a library whose writes append all or nothing.  Every
call keeps a front part of its data (all of it if it returns 0), and the content of the handle is
what the calls kept, in order: a chunk that could not be written stays in the buffer and goes out
first the next time.
-/

namespace SdioFat32
namespace Middleware

open Effects Cells BufferedFile

/-! ## Calls with their accesses -/

def FileCall.watchedRun (fuel : Nat) : FileCall → WatchedFileProc Int
  | .write data => watchedWrite fuel data (BitVec.ofNat 32 data.length)
  | .flush => watchedFlush

def runWatchedCalls (fuel : Nat) : List FileCall → WatchedFileProc (List Int)
  | [] => return []
  | c :: cs => do
      let status ← c.watchedRun fuel
      let rest ← runWatchedCalls fuel cs
      return status :: rest

theorem FileCall.unwatch_run (fuel : Nat) (c : FileCall) :
    (c.watchedRun fuel).unwatch = c.run fuel := by
  cases c with
  | write data => exact unwatch_write fuel data (BitVec.ofNat 32 data.length)
  | flush => exact unwatch_flush

/-- Without the accesses these are the calls of a session. -/
theorem unwatch_runWatchedCalls (fuel : Nat) (cs : List FileCall) :
    (runWatchedCalls fuel cs).unwatch = runFileCalls fuel cs := by
  induction cs with
  | nil => rfl
  | cons c cs ih =>
      unfold runWatchedCalls runFileCalls
      simp only [Proc.unwatch_bind, Proc.unwatch_pure, c.unwatch_run, ih]

/-! ## What a call keeps -/

structure KeptBy (c : FileCall) (status : Int) (kept : List Byte) : Prop where
  front : kept <+: c.data
  whole : status = 0 → kept = c.data

/-- The concatenation of what the calls kept. -/
def Accounted : List FileCall → List Int → List Byte → Prop
  | [], [], bytes => bytes = []
  | c :: cs, status :: statuses, bytes =>
      ∃ kept rest, KeptBy c status kept ∧ Accounted cs statuses rest ∧ bytes = kept ++ rest
  | _, _, _ => False

/-- Data a `uint32_t` length can describe, and enough iterations for it. -/
structure Fits (fuel : Nat) (c : FileCall) : Prop where
  length : c.data.length < 2 ^ 32
  fuel : c.data.length + 1 < fuel

variable {fuel : Nat} {f f' : SdFat32File} {s s' : FatState}

/-- A part of `data` went from the rest to the content. -/
theorem kept_of_left {base data left now : List Byte} (hleft : left <:+ data)
    (h : now ++ left = base ++ data) : ∃ kept, kept <+: data ∧ now = base ++ kept := by
  rcases hleft with ⟨kept, rfl⟩
  refine ⟨kept, List.prefix_append kept left, ?_⟩
  rw [← List.append_assoc] at h
  exact List.append_cancel_right h

theorem wp_watchedWrite {data : List Byte} (hfit : Fits fuel (.write data)) (hf : Within f) :
    (watchedWrite fuel data (BitVec.ofNat 32 data.length)).wp (fatLibrary.watch InBuffer)
      (fun _ => False)
      (fun status f' s' => Within f' ∧
        ∃ kept, KeptBy (.write data) status kept ∧ content f' s' = content f s ++ kept) f s := by
  have hlength : (BitVec.ofNat 32 data.length).toNat = data.length := by
    rw [BitVec.toNat_ofNat]
    exact Nat.mod_eq_of_lt hfit.length
  have hstart : Copying (content f s ++ data) s.failed (BitVec.ofNat 32 data.length, data) f s :=
    ⟨hlength, hf, rfl, rfl⟩
  have heffort : effort (BitVec.ofNat 32 data.length, data) f < fuel := by
    have hfuel : data.length + 1 < fuel := hfit.fuel
    unfold effort
    dsimp only
    rw [hlength]
    split <;> omega
  unfold watchedWrite
  -- What is left to copy is always a tail of `data`.
  refine Proc.wp_iter_total
    (fun rest f' s' => Copying (content f s ++ data) s.failed rest f' s' ∧ rest.2 <:+ data)
    (fun rest f' _ => effort rest f') ?_ fuel ⟨hstart, List.suffix_refl data⟩ heffort
  rintro rest f₁ s₁ ⟨hcopying, hsuffix⟩
  refine Proc.wp_mono (wp_watchedWriteStep hcopying) ?_
  rintro (rest' | status) f₂ s₂ hpost
  · rcases hpost with ⟨hcopying', hsuffix', hless⟩
    exact ⟨⟨hcopying', hsuffix'.trans hsuffix⟩, hless⟩
  · rcases hpost with ⟨hwithin, ⟨hstatus, hcontent, _⟩ | ⟨hstatus, _, left, hleft, hcontent⟩⟩
    · exact ⟨hwithin, data, ⟨List.prefix_refl data, fun _ => rfl⟩, hcontent⟩
    · rcases kept_of_left (hleft.trans hsuffix) hcontent with ⟨kept, hfront, hkept⟩
      exact ⟨hwithin, kept, ⟨hfront, fun h => absurd h hstatus⟩, hkept⟩

theorem wp_watchedFlush {D : FatState → Prop} (hf : Within f) :
    watchedFlush.wp (fatLibrary.watch InBuffer) D
      (fun _ f' s' => Within f' ∧ content f' s' = content f s) f s := by
  unfold watchedFlush
  simp only [Proc.wp_bind, Proc.wp_globals]
  split
  · simp only [Proc.wp_bind]
    refine wp_watchedWriteFile hf ?_ ?_
    · simp [content, Within]
    · intro status hstatus
      simpa [hstatus, content] using hf
  · exact ⟨hf, rfl⟩

theorem FileCall.wp_watchedRun {c : FileCall} (hfit : Fits fuel c) (hf : Within f) :
    (c.watchedRun fuel).wp (fatLibrary.watch InBuffer) (fun _ => False)
      (fun status f' s' => Within f' ∧
        ∃ kept, KeptBy c status kept ∧ content f' s' = content f s ++ kept) f s := by
  cases c with
  | write data => exact wp_watchedWrite hfit hf
  | flush =>
      refine Proc.wp_mono (wp_watchedFlush hf) ?_
      rintro status f' s' ⟨hwithin, hcontent⟩
      refine ⟨hwithin, [], ⟨List.prefix_refl [], fun _ => rfl⟩, ?_⟩
      rw [hcontent, List.append_nil]

/-! ## Sequences of calls -/

theorem wp_runWatchedCalls {cs : List FileCall} (hcs : ∀ c ∈ cs, Fits fuel c) (hf : Within f) :
    (runWatchedCalls fuel cs).wp (fatLibrary.watch InBuffer) (fun _ => False)
      (fun statuses f' s' => Within f' ∧
        ∃ bytes, Accounted cs statuses bytes ∧ content f' s' = content f s ++ bytes) f s := by
  induction cs generalizing f s with
  | nil => exact ⟨hf, [], rfl, (List.append_nil _).symm⟩
  | cons c cs ih =>
      unfold runWatchedCalls
      refine Proc.wp_seq (c.wp_watchedRun (hcs c (by simp)) hf) ?_
      rintro status f₁ s₁ ⟨hf₁, kept, hkept, hcontent₁⟩
      refine Proc.wp_seq (ih (fun c' hc' => hcs c' (by simp [hc'])) hf₁) ?_
      rintro statuses f₂ s₂ ⟨hf₂, rest, hrest, hcontent₂⟩
      refine ⟨hf₂, kept ++ rest, ⟨kept, rest, hkept, hrest, rfl⟩, ?_⟩
      calc
        content f₂ s₂ = content f₁ s₁ ++ rest := hcontent₂
        _ = content f s ++ (kept ++ rest) := by rw [hcontent₁, List.append_assoc]

/-- Every sequence of calls on a fresh handle, and so every call of a longer one: no access leaves
the buffer, no loop goes on for ever, and the bytes on the card followed by those in the buffer
are what the calls kept. -/
theorem writer_accounting {cs : List FileCall} (hcs : ∀ c ∈ cs, Fits fuel c)
    (hindex : f.index = 0#32) (hnew : s.appended = []) :
    (∀ x k f', Reaches (fatLibrary.watch InBuffer) (runWatchedCalls fuel cs f) s
        (.op (.note x) k) f' → x.off + x.len ≤ 2560) ∧
      (runWatchedCalls fuel cs).unwatch = runFileCalls fuel cs ∧
      (∀ s', ¬Reaches fatLibrary (runFileCalls fuel cs f) s .spin s') ∧
      ∀ statuses f' s', Runs fatLibrary (runFileCalls fuel cs f) s (statuses, f') s' →
        f'.index.toNat ≤ 2560 ∧
          ∃ bytes, Accounted cs statuses bytes ∧
            s'.appended ++ front f'.buffer f'.index.toNat = bytes := by
  have hf : Within f := by simp [Within, hindex]
  have hwatched := wp_runWatchedCalls (s := s) hcs hf
  have hplain := Proc.wp_unwatch hwatched
  rw [unwatch_runWatchedCalls] at hplain
  refine ⟨?_, unwatch_runWatchedCalls fuel cs, ?_, ?_⟩
  · intro x k s' hreach
    have hin := Prog.wp_req hwatched hreach
    exact hin
  · intro s' hreach
    exact Prog.wp_not_spin hplain hreach
  · intro statuses f' s' hrun
    rcases Proc.wp_runs hplain hrun with ⟨hwithin, bytes, haccounted, hcontent⟩
    have hempty : content f s = [] := by simp [content, hindex, hnew]
    rw [hempty, List.nil_append] at hcontent
    exact ⟨hwithin, bytes, haccounted, hcontent⟩

theorem writer_accounting_two_calls :
    (∀ x k f', Reaches (fatLibrary.watch InBuffer)
        (runWatchedCalls 4 [.write [0x41#8], .flush] blankHandle) { appended := [], failed := false }
        (.op (.note x) k) f' → x.off + x.len ≤ 2560) ∧
      (runWatchedCalls 4 [.write [0x41#8], .flush]).unwatch =
        runFileCalls 4 [.write [0x41#8], .flush] ∧
      (∀ s', ¬Reaches fatLibrary (runFileCalls 4 [.write [0x41#8], .flush] blankHandle)
        { appended := [], failed := false } .spin s') ∧
      ∀ statuses f' s', Runs fatLibrary (runFileCalls 4 [.write [0x41#8], .flush] blankHandle)
          { appended := [], failed := false } (statuses, f') s' →
        f'.index.toNat ≤ 2560 ∧
          ∃ bytes, Accounted [.write [0x41#8], .flush] statuses bytes ∧
            s'.appended ++ front f'.buffer f'.index.toNat = bytes :=
  writer_accounting
    (by
      intro c hc
      have hcases : c = .write [0x41#8] ∨ c = .flush := by simpa using hc
      rcases hcases with rfl | rfl
      · exact ⟨by decide, by decide⟩
      · exact ⟨by decide, by decide⟩)
    rfl rfl

end Middleware
end SdioFat32
