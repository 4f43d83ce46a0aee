import SdioFat32.Middleware.ChunkedWrite

/-!
# SplitWrite — one `sd_fat32_write` or two

Where a chunk ends depends on the position in the stream alone, not on the calls that brought the
bytes.  Writing `a ++ b` is therefore the same program as writing `a` and, if that returned 0,
writing `b`: it makes the same calls in the same order and leaves the same handle behind.
-/

namespace SdioFat32
namespace Middleware

open Effects Cells BufferedFile
open SdFat32File

/-- Write `a`, and then `b` if that returned 0. -/
def writeTwo (fuel : Nat) (a b : List Byte) : FileProc Int := do
  let status ← writeAll fuel a
  if status ≠ 0 then
    return status
  writeAll fuel b

variable {fuel : Nat} {f : SdFat32File} {a b ptr : List Byte}

/-! ## Bytes that fit first -/

theorem Ready.left (h : Ready fuel f (a ++ b)) : Ready fuel f a := by
  have hlen := h.length
  rw [List.length_append] at hlen
  refine ⟨h.within, by omega, ?_⟩
  have hfuel := h.fuel
  rw [effort_rest h.length, List.length_append] at hfuel
  rw [effort_rest (by omega)]
  omega

/-- The handle after bytes that fit, with what is left to write. -/
theorem Ready.accept (h : Ready fuel f (a ++ b)) (hshort : a.length < f.room) :
    Ready fuel (f.accept a) b := by
  have hlen := h.length
  have hwithin := within_accept h.within (Nat.le_of_lt hshort)
  have hroom := room_accept h.within (Nat.le_of_lt hshort)
  have hfull : ¬(f.accept a).index = sdFat32BufferSize := by
    rw [index_full_iff hwithin, hroom]
    omega
  rw [List.length_append] at hlen
  refine ⟨hwithin, by omega, ?_⟩
  have hfuel := h.fuel
  rw [effort_rest h.length, List.length_append] at hfuel
  rw [effort_rest (by omega), if_neg hfull]
  omega

/-- The chunk that fills the buffer is the same, whether its front is already in it or not. -/
theorem chunk_append (hf : Within f) (hshort : a.length < f.room) :
    ((f.accept a).accept (b.take (f.accept a).room) = f.accept ((a ++ b).take f.room)) ∧
      pending (f.accept a) ++ b.take (f.accept a).room = pending f ++ (a ++ b).take f.room ∧
        b.drop (f.accept a).room = (a ++ b).drop f.room := by
  have hle := Nat.le_of_lt hshort
  have htake : (a ++ b).take f.room = a ++ b.take (f.room - a.length) := by
    rw [List.take_append, List.take_of_length_le hle]
  have hdrop : (a ++ b).drop f.room = b.drop (f.room - a.length) := by
    rw [List.drop_append, List.drop_eq_nil_of_le hle, List.nil_append]
  rw [room_accept hf hle, pending_accept hf hle, accept_accept hf hle, htake, hdrop]
  exact ⟨rfl, List.append_assoc _ _ _, rfl⟩

theorem writeAll_accept (h : Ready fuel f (a ++ b)) (hshort : a.length < f.room) :
    writeAll fuel b (f.accept a) = writeAll fuel (a ++ b) f := by
  have hnext := h.accept hshort
  have hle := Nat.le_of_lt hshort
  have hroom := room_accept h.within hle
  by_cases hfits : (a ++ b).length < f.room
  · -- Nothing is written out, by one call or by two.
    have hb : b.length < (f.accept a).room := by
      rw [List.length_append] at hfits
      omega
    rw [hnext.writeAll_short hb, h.writeAll_short hfits, accept_accept h.within hle]
  · -- The first chunk is the same, and so is what follows it.
    have hfull : f.room ≤ (a ++ b).length := Nat.le_of_not_lt hfits
    have hb : (f.accept a).room ≤ b.length := by
      rw [List.length_append] at hfull
      omega
    have hne : b ≠ [] := by
      rintro rfl
      rw [List.length_nil] at hb
      omega
    have happend : a ++ b ≠ [] := List.append_ne_nil_of_right_ne_nil _ hne
    rcases chunk_append h.within hshort with ⟨haccept, hbytes, hdrop⟩
    rw [hnext.writeAll_full hne hb, h.writeAll_full happend hfull, hbytes, SdFat32File.next,
      SdFat32File.next, haccept, hdrop]
    rfl

/-! ## The two programs -/

theorem writeTwo_bind (fuel : Nat) (a b : List Byte) (f : SdFat32File) :
    writeTwo fuel a b f = (writeAll fuel a f).bind fun x =>
      if x.1 ≠ 0 then .ret (x.1, x.2) else writeAll fuel b x.2 := by
  refine congrArg (Prog.bind (writeAll fuel a f)) (funext fun x => ?_)
  by_cases hstatus : x.1 = 0
  · exact (congrFun (if_neg (not_not.2 hstatus)) _).trans (if_neg (not_not.2 hstatus)).symm
  · exact (congrFun (if_pos hstatus) _).trans (if_pos hstatus).symm

/-- A chunk of `a` alone is the same chunk of `a ++ b`. -/
theorem full_append (hfull : f.room ≤ a.length) :
    (a ++ b).take f.room = a.take f.room ∧ (a ++ b).drop f.room = a.drop f.room ++ b ∧
      f.next (a ++ b) = f.next a := by
  have htake : (a ++ b).take f.room = a.take f.room := List.take_append_of_le_length hfull
  refine ⟨htake, List.drop_append_of_le_length hfull, ?_⟩
  rw [SdFat32File.next, SdFat32File.next, htake]

/-- Both programs write the chunks of `a` in step, and then the rest of `a` with the front of
`b`. -/
theorem writeTwo_eq (h : Ready fuel f (a ++ b)) :
    writeTwo fuel a b f = writeAll fuel (a ++ b) f := by
  have hleft := h.left
  revert h
  refine chunk_induction (motive := fun f a => Ready fuel f (a ++ b) →
    writeTwo fuel a b f = writeAll fuel (a ++ b) f) ?_ ?_ ?_ hleft
  · intro f hnil _
    rw [writeTwo_bind, hnil.writeAll_nil]
    rfl
  · -- The rest of `a` stays in the buffer, and `b` follows it there.
    intro f a ha hshort h
    rw [writeTwo_bind, ha.writeAll_short hshort]
    exact writeAll_accept h hshort
  · intro f a ha hne hfull ih h
    rcases full_append (b := b) hfull with ⟨htake, hdrop, hnext⟩
    have happend : a ++ b ≠ [] := List.append_ne_nil_of_left_ne_nil hne b
    have hlonger : f.room ≤ (a ++ b).length := by
      rw [List.length_append]
      omega
    have hready : Ready fuel (f.next a) (a.drop f.room ++ b) := by
      obtain ⟨n, rfl⟩ := h.exists_succ
      have hnext' := (h.next happend).mono (Nat.le_succ n)
      rwa [hdrop, hnext] at hnext'
    rw [writeTwo_bind, ha.writeAll_full hne hfull, h.writeAll_full happend hlonger, htake, hdrop,
      hnext]
    refine congrArg (Prog.op _) (funext fun (status : Int) => ?_)
    -- A failure ends both programs with its status; `b` is not begun.
    change Prog.bind (if status ≠ 0 then _ else _) _ = _
    by_cases hstatus : status = 0
    · rw [if_neg (not_not.2 hstatus), if_neg (not_not.2 hstatus), ← ih hready]
      exact (writeTwo_bind fuel (a.drop f.room) b (f.next a)).symm
    · rw [if_pos hstatus, if_pos hstatus]
      exact if_pos hstatus

/-! ## Runs -/

/-- The library calls of a run in order; the `n`-th one returns `results n`. -/
def recording (results : Nat → Int) (calls : List FatEvent) :
    (e : FatEvent) → FatEvent.Response e × List FatEvent
  | .openFile path mode => ((results calls.length, 0), calls ++ [.openFile path mode])
  | .writeFile file bytes => (results calls.length, calls ++ [.writeFile file bytes])
  | .closeFile file => ((results calls.length, 0), calls ++ [.closeFile file])

/-- The loop is never cut off. -/
theorem emits_writeAll (h : Ready fuel f ptr) :
    (writeAll fuel ptr f).Emits (fun _ => True) False := by
  refine chunk_induction (motive := fun f ptr =>
    (writeAll fuel ptr f).Emits (fun _ => True) False) ?_ ?_ ?_ h
  · intro f hnil
    rw [hnil.writeAll_nil]
    trivial
  · intro f ptr h hshort
    rw [h.writeAll_short hshort]
    trivial
  · intro f ptr h hne hfull ih
    rw [h.writeAll_full hne hfull]
    refine ⟨trivial, fun (status : Int) => ?_⟩
    by_cases hstatus : status = 0
    · subst hstatus
      exact ih
    · dsimp only
      rw [if_pos hstatus]
      trivial

/-- For every sequence of results the library may return, one call with `a ++ b` and two calls
with `a` and `b` return the same status, have made the same calls with the same contents, and
leave the same handle: the same index, the same buffer. -/
theorem split_write (hf : Within f) (hlen : (a ++ b).length < 2 ^ 32)
    (hfuel : (a ++ b).length + 1 < fuel) (results : Nat → Int) :
    ∃ status f' calls,
      (writeAll fuel (a ++ b) f).exec (recording results) [] = some ((status, f'), calls) ∧
      (writeTwo fuel a b f).exec (recording results) [] = some ((status, f'), calls) := by
  have hready := ready_of_length hf hlen hfuel
  -- The one program returns, whatever the results are, and the other one is the same program.
  have hreturns := (emits_writeAll hready).exec_isSome (recording results) []
  rcases Option.isSome_iff_exists.1 hreturns with ⟨⟨⟨status, f'⟩, calls⟩, hexec⟩
  refine ⟨status, f', calls, hexec, ?_⟩
  rw [writeTwo_eq hready]
  exact hexec

/-- A handle with a full buffer, and a library whose first write fails. -/
theorem split_write_full_handle :
    ∃ status f' calls,
      (writeAll 4 ([0x41#8] ++ [0x42#8]) { blankHandle with index := 2560#32 }).exec
        (recording fun n => if n = 0 then 5 else 0) [] = some ((status, f'), calls) ∧
      (writeTwo 4 [0x41#8] [0x42#8] { blankHandle with index := 2560#32 }).exec
        (recording fun n => if n = 0 then 5 else 0) [] = some ((status, f'), calls) :=
  split_write (f := { blankHandle with index := 2560#32 }) (Nat.le_refl 2560) (by decide)
    (by decide) _

end Middleware
end SdioFat32
