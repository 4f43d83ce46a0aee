import SdioFat32.Driver.StoringCard

/-!
# TransferEnd — from the end of a polling loop to the end of the call

When a loop has ended, the path has stopped and the outcome `G` of the transfer is reached, or an
error flag is up, which stays until one of the tests finds it.  `F` is what holds of memory and of
the card either way.
-/

namespace SdioFat32
namespace Driver

open Effects Cells Proc Relation

/-- What holds of memory and of the card. -/
abbrev Frame : Type := Memory 32 (BitVec 8) → (Nat → BitVec 8) → Prop

structure Concluded (F : Frame) (G : RxState → Prop) (mask : BitVec 32) (s : CardState) : Prop where
  halted : Halted s
  framed : F s.mem s.card
  decided : s.enabled = false ∧ G s.bare ∨ hasFlag s.flags mask = true

/-- All tests are passed. -/
structure Passing (F : Frame) (G : RxState → Prop) (s : CardState) : Prop where
  halted : Halted s
  framed : F s.mem s.card
  stopped : s.enabled = false
  good : G s.bare

/-- Between two calls, with the frame. -/
structure RestsWith (F : Frame) (s : CardState) : Prop extends Rests s where
  framed : F s.mem s.card

/-- The end of a call that returned `status`. -/
def ClosedWith (F : Frame) (G : RxState → Prop) (status : Int) (s : CardState) : Prop :=
  RestsWith F s ∧ (status = 0 → G s.bare)

variable {F : Frame} {G : RxState → Prop} {mask v m sta : BitVec 32} {s s' : CardState}
  {byteAddressed : Bool} {D : CardState → Prop} {g : SdGlobals} {fuel : Nat}

theorem ClosedWith.of_ne {status : Int} (h : RestsWith F s) (hstatus : status ≠ 0) :
    ClosedWith F G status s :=
  ⟨h, fun hzero => absurd hzero hstatus⟩

/-! ## Flags -/

/-- `STA` shows the flags of the data path as they are. -/
theorem CardState.Shows.hasDataFlag (h : s.Shows sta) (hm : pathFlags &&& m = m) :
    hasFlag sta m = hasFlag s.flags m := by
  have hmask : ∀ x : BitVec 32, x &&& m = x &&& pathFlags &&& m := fun x => by
    rw [BitVec.and_assoc, hm]
  rw [hasFlag, hasFlag, hmask sta, hmask s.flags, h.data]

/-! ## What outlasts the end of the call -/

theorem Halted.obeys {transfer : Option DataTransfer} (h : Halted s) :
    Halted { s with transfer := transfer } where
  noStartError := h.noStartError
  idle henabled := by
    obtain ⟨huntouched, hends⟩ := h.idle henabled
    exact ⟨⟨huntouched.arrived, huntouched.queued, huntouched.total, huntouched.pushed,
      huntouched.consumed, huntouched.stored⟩, hends⟩

theorem Halted.arg {arg : BitVec 32} (h : Halted s) : Halted { s with arg := arg } where
  noStartError := h.noStartError
  idle henabled := by
    obtain ⟨huntouched, hends⟩ := h.idle henabled
    exact ⟨⟨huntouched.arrived, huntouched.queued, huntouched.total, huntouched.pushed,
      huntouched.consumed, huntouched.stored⟩, hends⟩

theorem indifferent_concluded (hmask : pathFlags &&& mask = mask) :
    Indifferent (Concluded F G mask) where
  proceeds s s' hstep h := by
    obtain ⟨hhalted, hmem, hcard, _⟩ := h.halted.proceeds hstep
    refine ⟨hhalted, ?_, ?_⟩
    · rw [hmem, hcard]
      exact h.framed
    · rcases h.decided with ⟨hstopped, _⟩ | hflag
      · exact absurd hstep (not_proceeds_of_stopped hstopped)
      · exact Or.inr (hstep.hasFlag_mono hflag)
  clears s v hv h := by
    refine ⟨h.halted.clear v, h.framed, ?_⟩
    rcases h.decided with hgood | hflag
    · exact Or.inl hgood
    · exact Or.inr ((hasFlag_clear hv hmask _).trans hflag)
  arg s v h := ⟨h.halted.arg, h.framed, h.decided⟩
  ends s h := ⟨h.halted.obeys, h.framed, h.decided⟩

theorem indifferent_passing : Indifferent (Passing F G) where
  proceeds _ _ hstep h := absurd hstep (not_proceeds_of_stopped h.stopped)
  clears _ v _ h := ⟨h.halted.clear v, h.framed, h.stopped, h.good⟩
  arg _ _ h := ⟨h.halted.arg, h.framed, h.stopped, h.good⟩
  ends _ h := ⟨h.halted.obeys, h.framed, h.stopped, h.good⟩

theorem indifferent_restsWith : Indifferent (RestsWith F) where
  proceeds s s' hstep h := by
    obtain ⟨hhalted, hmem, hcard, hends⟩ := h.toHalted.proceeds hstep
    refine ⟨⟨hhalted, hends.trans h.ends⟩, ?_⟩
    rw [hmem, hcard]
    exact h.framed
  clears s v hv h := ⟨⟨h.toHalted.clear v, hasFlag_clear_false h.ends⟩, h.framed⟩
  arg s v h := ⟨⟨h.toHalted.arg, h.ends⟩, h.framed⟩
  ends s h := ⟨⟨h.toHalted.obeys, h.ends⟩, h.framed⟩

/-- The path rests, and the outcome stays. -/
theorem indifferent_ended :
    Indifferent fun s => RestsWith F s ∧ s.enabled = false ∧ G s.bare where
  proceeds _ _ hstep h := absurd hstep (not_proceeds_of_stopped h.2.1)
  clears s v hv h := ⟨indifferent_restsWith.clears s v hv h.1, h.2⟩
  arg s v h := ⟨indifferent_restsWith.arg s v h.1, h.2⟩
  ends s h := ⟨indifferent_restsWith.ends s h.1, h.2⟩

/-! ## The steps to the end -/

/-- Clearing the data flags. -/
theorem Concluded.clear (h : Concluded F G mask s) :
    RestsWith F { s with flags := s.flags &&& ~~~sdioMaskStaticDataFlags } :=
  ⟨h.halted.rests, h.framed⟩

theorem wp_stopTransmission_steady (hmask : pathFlags &&& mask = mask)
    (h : Concluded F G mask s) :
    (stopTransmission fuel).wp (steadyCard byteAddressed) (fun _ => True)
      (fun status _ s' => (status = 0 ∧ Concluded F G mask s') ∨ (status ≠ 0 ∧ RestsWith F s'))
      g s := by
  refine (indifferent_concluded hmask).survives.wp_stopTransmission ?_ h
  intro g₁ s₁ h₁
  exact wp_clearFlagsSdio_steady (indifferent_concluded hmask).toSteadfast
    (fun s hs => hs.clear) h₁

/-- The flags of tests on the data path. -/
theorem testFlags_data {tests : List (BitVec 32 × Int)}
    (htests : ∀ t ∈ tests, pathFlags &&& t.1 = t.1) :
    pathFlags &&& testFlags tests = testFlags tests := by
  induction tests with
  | nil => rfl
  | cons t tests ih =>
      have hhead := htests t List.mem_cons_self
      have htail := ih fun t ht => htests t (List.mem_cons_of_mem _ ht)
      have hdistrib : pathFlags &&& (t.1 ||| testFlags tests) =
          pathFlags &&& t.1 ||| pathFlags &&& testFlags tests := by
        ext i
        simp [Bool.and_or_distrib_left]
      calc
        pathFlags &&& testFlags (t :: tests)
            = pathFlags &&& t.1 ||| pathFlags &&& testFlags tests := hdistrib
        _ = testFlags (t :: tests) := by
              rw [hhead, htail]
              rfl

/-- Whoever passes the tests has reached the outcome. -/
theorem wp_exitTests_steady {tests : List (BitVec 32 × Int)}
    (hdata : ∀ t ∈ tests, pathFlags &&& t.1 = t.1) (herrors : ∀ t ∈ tests, t.2 ≠ 0)
    (h : Concluded F G (testFlags tests) s) :
    (exitTests tests).wp (steadyCard byteAddressed) D
      (fun status _ s' => (status = 0 ∧ Passing F G s') ∨ (status ≠ 0 ∧ RestsWith F s')) g s := by
  induction tests generalizing g s with
  | nil =>
      rcases h.decided with ⟨hstopped, hgood⟩ | hflag
      · exact Or.inl ⟨rfl, h.halted, h.framed, hstopped, hgood⟩
      · simp [testFlags, hasFlag] at hflag
  | cons t tests ih =>
      rcases t with ⟨flag, error⟩
      have hsteady := (indifferent_concluded (F := F) (G := G) (testFlags_data hdata)).toSteadfast
      unfold exitTests
      refine wp_seq (wp_readSta_steady hsteady h) ?_
      rintro sta g₁ s₁ ⟨rfl, h₁, hshows⟩
      split
      next hset =>
        refine wp_seq (wp_clearFlagsSdio_steady hsteady (fun s hs => hs.clear) h₁) ?_
        intro _ g₂ s₂ h₂
        exact Or.inr ⟨herrors (flag, error) List.mem_cons_self, h₂⟩
      next hclear =>
        refine ih (fun t ht => hdata t (List.mem_cons_of_mem _ ht))
          (fun t ht => herrors t (List.mem_cons_of_mem _ ht)) ⟨h₁.halted, h₁.framed, ?_⟩
        rcases h₁.decided with hgood | hflag
        · exact Or.inl hgood
        -- The flag that is up is one of those still to be tested.
        · have hdown : hasFlag s₁.flags flag = false := by
            rw [← hshows.hasDataFlag (hdata (flag, error) List.mem_cons_self)]
            exact Bool.eq_false_iff.2 hclear
          have hrest : hasFlag s₁.flags (flag ||| testFlags tests) = true := hflag
          rw [hasFlag_or, hdown, Bool.false_or] at hrest
          exact Or.inr hrest

/-- Clear the data flags after the tests. -/
theorem wp_clearPassing (h : Passing F G s) :
    (clearFlagsSdio sdioMaskStaticDataFlags).wp (steadyCard byteAddressed) D
      (fun _ _ s' => RestsWith F s' ∧ s'.enabled = false ∧ G s'.bare) g s :=
  wp_clearFlagsSdio_steady indifferent_passing.toSteadfast
    (fun _ hs => ⟨⟨hs.halted.rests, hs.framed⟩, hs.stopped, hs.good⟩) h

/-- The last wait. -/
theorem wp_waitCardReady_ended (h : RestsWith F s ∧ s.enabled = false ∧ G s.bare) :
    (waitCardReady fuel).wp (steadyCard byteAddressed) (fun _ => True)
      (fun status _ s' => ClosedWith F G status s') g s := by
  refine wp_mono (indifferent_ended.survives.wp_waitCardReady h) ?_
  rintro status g' s' ⟨hrests, _, hgood⟩
  exact ⟨hrests, fun _ => hgood⟩

end Driver
end SdioFat32
