import Mathlib.Data.Nat.Basic

/-!
# FirstFit — the counting search for a run of free cells

`scan` walks over cells in increasing order and counts the free cells since the last used one; it
stops at the first cell where the count reaches the length wanted.  It is sound and complete for
the interval it walks over, and only for that interval: a run that crosses the end of one interval
and the start of the next is found by neither of the two scans.
-/

namespace Cells

variable {free : Nat → Bool} {first n idx steps count needed found : Nat}

/-- The `n` cells from `first` on are all free. -/
def FreeRun (free : Nat → Bool) (first n : Nat) : Prop :=
  ∀ i, first ≤ i → i < first + n → free i = true

/-- There is a run of `n` free cells inside `[lo, hi)`. -/
def HasRun (free : Nat → Bool) (n lo hi : Nat) : Prop :=
  ∃ first, lo ≤ first ∧ first + n ≤ hi ∧ FreeRun free first n

theorem HasRun.mono {lo lo' hi hi' : Nat} (h : HasRun free n lo hi) (hlo : lo' ≤ lo)
    (hhi : hi ≤ hi') : HasRun free n lo' hi' := by
  obtain ⟨first, h₁, h₂, hrun⟩ := h
  exact ⟨first, by omega, by omega, hrun⟩

theorem FreeRun.snoc (h : FreeRun free first n) (hnext : free (first + n) = true) :
    FreeRun free first (n + 1) := by
  intro i hlo hhi
  by_cases hi : i < first + n
  · exact h i hlo hi
  · have hlast : i = first + n := by omega
    rw [hlast]
    exact hnext

theorem freeRun_one (h : free first = true) : FreeRun free first 1 := by
  intro i hlo hhi
  have hi : i = first := by omega
  rw [hi]
  exact h

/-- Walk `steps` cells from `idx`; `count` cells before `idx`, the first of them `first`, are
known to be free. -/
def scan (free : Nat → Bool) (needed : Nat) : Nat → Nat → Nat → Nat → Option Nat
  | 0, _, _, _ => none
  | steps + 1, idx, count, first =>
      if free idx then
        -- A count of 0 means that a new run starts here.
        let start := if count = 0 then idx else first
        if count + 1 ≥ needed then some start
        else scan free needed steps (idx + 1) (count + 1) start
      -- A used cell throws the count away.
      else scan free needed steps (idx + 1) 0 first

/-- What the search knows about the cells behind it. -/
def Counted (free : Nat → Bool) (idx count first : Nat) : Prop :=
  count = 0 ∨ (first + count = idx ∧ FreeRun free first count)

theorem Counted.next (h : Counted free idx count first) (hidx : free idx = true) :
    (if count = 0 then idx else first) + (count + 1) = idx + 1 ∧
      FreeRun free (if count = 0 then idx else first) (count + 1) := by
  rcases h with hzero | ⟨hsum, hrun⟩
  · subst hzero
    exact ⟨rfl, freeRun_one hidx⟩
  · by_cases hzero : count = 0
    · subst hzero
      exact ⟨rfl, freeRun_one hidx⟩
    · rw [if_neg hzero]
      exact ⟨by omega, hrun.snoc (by rw [hsum]; exact hidx)⟩

theorem scan_some (hcount : Counted free idx count first) (hlt : count < needed)
    (h : scan free needed steps idx count first = some found) :
    idx - count ≤ found ∧ found + needed ≤ idx + steps ∧ FreeRun free found needed := by
  -- Along the walk, with `Counted` as the invariant.
  induction steps generalizing idx count first with
  | zero => cases h
  | succ steps ih =>
      rw [scan] at h
      by_cases hfree : free idx = true
      · obtain ⟨hsum, hrun⟩ := hcount.next hfree
        rw [if_pos hfree] at h
        by_cases hdone : count + 1 ≥ needed
        · have hneeded : needed = count + 1 := by omega
          simp only [hdone, ↓reduceIte, Option.some.injEq] at h
          rw [h] at hsum hrun
          rw [hneeded]
          exact ⟨by omega, by omega, hrun⟩
        · simp only [hdone, ↓reduceIte] at h
          obtain ⟨hlo, hhi, hfound⟩ := ih (Or.inr ⟨hsum, hrun⟩) (by omega) h
          exact ⟨by omega, by omega, hfound⟩
      · rw [if_neg hfree] at h
        -- Behind a used cell the walk knows nothing.
        obtain ⟨hlo, hhi, hfound⟩ := ih (Or.inl rfl) (by omega) h
        exact ⟨by omega, by omega, hfound⟩

theorem scan_none (hlt : count < needed)
    (h : scan free needed steps idx count first = none) :
    ∀ f, idx - count ≤ f → f + needed ≤ idx + steps → ¬FreeRun free f needed := by
  induction steps generalizing idx count first with
  | zero =>
      -- With no cell left a run would have to lie in the `count` cells behind, which are too few.
      intro f hlo hhi hrun
      omega
  | succ steps ih =>
      intro f hlo hhi hrun
      rw [scan] at h
      by_cases hfree : free idx = true
      · rw [if_pos hfree] at h
        by_cases hdone : count + 1 ≥ needed
        · simp [hdone] at h
        · simp only [hdone, ↓reduceIte] at h
          exact ih (by omega) h f (by omega) (by omega) hrun
      · rw [if_neg hfree] at h
        -- A run that starts at or before the used cell `idx` would have to contain it.
        by_cases hbefore : f ≤ idx
        · exact hfree (hrun idx hbefore (by omega))
        · exact ih (by omega) h f (by omega) (by omega) hrun

/-- A search for no cell stops at the first free one, like a search for one cell. -/
theorem scan_max_one :
    scan free needed steps idx count first = scan free (max 1 needed) steps idx count first := by
  induction steps generalizing idx count first with
  | zero => rfl
  | succ steps ih =>
      have hsame : count + 1 ≥ needed ↔ count + 1 ≥ max 1 needed := by omega
      have hnext : ∀ count first, scan free needed steps (idx + 1) count first =
          scan free (max 1 needed) steps (idx + 1) count first := fun _ _ => ih
      rw [scan, scan]
      simp only [hsame, hnext]

/-- The search over `[lo, hi)` fails exactly when that interval has no run of the length wanted. -/
theorem scan_eq_none_iff {lo hi : Nat} (hneeded : 0 < needed) (hle : lo ≤ hi) :
    scan free needed (hi - lo) lo 0 first = none ↔ ¬HasRun free needed lo hi := by
  constructor
  · rintro h ⟨f, hlo, hhi, hrun⟩
    exact scan_none hneeded h f hlo (by omega) hrun
  · intro hno
    cases hscan : scan free needed (hi - lo) lo 0 first with
    | none => rfl
    | some f =>
        obtain ⟨hlo, hhi, hrun⟩ := scan_some (Or.inl rfl) hneeded hscan
        exact absurd ⟨f, by omega, by omega, hrun⟩ hno

end Cells
