import Mathlib.Data.List.Basic

/-!
# Tickets and a line

Several parties draw numbered tickets from one counter and join one line later, each on its own.
The line is in the order of the numbers as long as whoever joins it holds the smallest number of
those who still have to join.
-/

namespace MiniatureWarehouse

variable {ε : Type*} {number : ε → ℕ} {last : ℕ} {waiting line : List ε}

/-- The line is in the order of the numbers, whoever has yet to join it holds a higher number than
everybody in it, and `last` is the highest number that was drawn. -/
structure Ticketed (number : ε → ℕ) (last : ℕ) (waiting line : List ε) : Prop where
  ordered : line.Pairwise fun x y => number x < number y
  above : ∀ x ∈ waiting, ∀ y ∈ line, number y < number x
  bounded : ∀ x ∈ waiting ++ line, number x ≤ last

namespace Ticketed

lemma nil (number : ε → ℕ) (last : ℕ) : Ticketed number last [] [] where
  ordered := .nil
  above _ hx := absurd hx List.not_mem_nil
  bounded _ hx := absurd hx List.not_mem_nil

/-- Whoever gives a ticket back is forgotten. -/
lemma subset (h : Ticketed number last waiting line) {waiting' : List ε}
    (hsub : waiting' ⊆ waiting) :
    Ticketed number last waiting' line where
  ordered := h.ordered
  above x hx := h.above x (hsub hx)
  bounded x hx := by
    rcases List.mem_append.mp hx with hwaiting | hline
    · exact h.bounded x (List.mem_append_left _ (hsub hwaiting))
    · exact h.bounded x (List.mem_append_right _ hline)

/-- **Drawing a ticket.** -/
lemma draw (h : Ticketed number last waiting line) {x : ε} (hx : number x = last + 1)
    {waiting' : List ε} (hsub : waiting' ⊆ x :: waiting) :
    Ticketed number (last + 1) waiting' line := by
  have hall : Ticketed number (last + 1) (x :: waiting) line := by
    refine ⟨h.ordered, ?_, ?_⟩
    · refine List.forall_mem_cons.mpr ⟨fun y hy => ?_, h.above⟩
      have hle := h.bounded y (List.mem_append_right _ hy)
      omega
    · refine List.forall_mem_cons.mpr ⟨by omega, fun y hy => ?_⟩
      have hle := h.bounded y hy
      omega
  exact hall.subset hsub

/-- **Joining the line**, before all who hold a higher number. -/
lemma join (h : Ticketed number last waiting line) {x : ε} (hx : x ∈ waiting) {waiting' : List ε}
    (hsub : waiting' ⊆ waiting) (hfirst : ∀ y ∈ waiting', number x < number y) :
    Ticketed number last waiting' (line ++ [x]) where
  ordered := by
    rw [List.pairwise_append]
    refine ⟨h.ordered, List.pairwise_singleton _ x, fun y hy z hz => ?_⟩
    obtain rfl : z = x := List.mem_singleton.mp hz
    exact h.above z hx y hy
  above y hy z hz := by
    rcases List.mem_append.mp hz with hline | hnew
    · exact h.above y (hsub hy) z hline
    · rw [List.mem_singleton.mp hnew]
      exact hfirst y hy
  bounded y hy := by
    simp only [List.mem_append, List.mem_singleton] at hy
    rcases hy with hwaiting | hline | rfl
    · exact h.bounded y (List.mem_append_left _ (hsub hwaiting))
    · exact h.bounded y (List.mem_append_right _ hline)
    · exact h.bounded y (List.mem_append_left _ hx)

end Ticketed

end MiniatureWarehouse
