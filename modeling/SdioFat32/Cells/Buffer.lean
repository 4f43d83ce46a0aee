import Mathlib.Data.List.Basic

/-!
# Buffer — a fixed buffer filled from the front

`copyInto` is `memcpy` into a buffer of fixed size; `front` is the part filled so far.
-/

namespace Cells

variable {α : Type} {n : Nat}

def copyInto (buf : Vector α n) (off : Nat) : List α → Vector α n
  | [] => buf
  | x :: xs => copyInto (buf.setIfInBounds off x) (off + 1) xs

/-- The first `k` cells. -/
def front (buf : Vector α n) (k : Nat) : List α :=
  buf.toList.take k

@[simp] theorem front_zero (buf : Vector α n) : front buf 0 = [] := rfl

@[simp] theorem length_front (buf : Vector α n) (k : Nat) : (front buf k).length = min k n := by
  simp [front]

theorem front_setIfInBounds (buf : Vector α n) {off : Nat} (h : off < n) (x : α) :
    front (buf.setIfInBounds off x) (off + 1) = front buf off ++ [x] := by
  unfold front
  rw [Vector.toList_setIfInBounds, List.take_add_one, List.take_set_of_le (Nat.le_refl _),
    List.getElem?_set_self (by simpa using h)]
  rfl

/-- Copying behind the filled part appends to it. -/
theorem front_copyInto (buf : Vector α n) (off : Nat) (xs : List α) (h : off + xs.length ≤ n) :
    front (copyInto buf off xs) (off + xs.length) = front buf off ++ xs := by
  -- Cell by cell: the first element extends the filled part, which the rest is copied behind.
  induction xs generalizing buf off with
  | nil => simp [copyInto]
  | cons x xs ih =>
      have hlen : off + 1 + xs.length ≤ n := by
        simp only [List.length_cons] at h
        omega
      have hoff : off < n := by omega
      calc
        front (copyInto buf off (x :: xs)) (off + (x :: xs).length)
            = front (copyInto (buf.setIfInBounds off x) (off + 1) xs) (off + 1 + xs.length) := by
              simp only [copyInto, List.length_cons]
              congr 1
              omega
        _ = front (buf.setIfInBounds off x) (off + 1) ++ xs := ih _ _ hlen
        _ = front buf off ++ x :: xs := by
              simp [front_setIfInBounds buf hoff]

/-- Two copies, the second one right behind the first one. -/
theorem copyInto_append (buf : Vector α n) (off : Nat) (xs ys : List α) :
    copyInto buf off (xs ++ ys) = copyInto (copyInto buf off xs) (off + xs.length) ys := by
  induction xs generalizing buf off with
  | nil => rfl
  | cons x xs ih =>
      simp only [List.cons_append, copyInto, List.length_cons]
      rw [ih, Nat.add_assoc, Nat.add_comm 1]

end Cells
