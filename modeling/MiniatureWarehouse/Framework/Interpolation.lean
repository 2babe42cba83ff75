import Mathlib.Algebra.Order.Floor.Ring
import Mathlib.Tactic

/-!
# Reading between the points of a sequence

A number between two indices is read on the line between the two values.  What is read lies between
them, so a sequence that does not decrease is read as a function that does not decrease, across the
indices as well as between them.
-/

namespace MiniatureWarehouse

section Interpolate

variable {α : Type*} [Field α] [LinearOrder α] [FloorRing α]

/-- `int` of a number: the fraction is cut off. -/
def truncate (x : α) : ℤ := if 0 ≤ x then ⌊x⌋ else ⌈x⌉

lemma truncate_of_nonneg {x : α} (h : 0 ≤ x) : truncate x = ⌊x⌋ := if_pos h

/-- The value of a sequence at a number, on the line between the two indices around it. -/
def interpolate (g : ℕ → α) (r : α) : α := g ⌊r⌋₊ + (g (⌊r⌋₊ + 1) - g ⌊r⌋₊) * (r - ⌊r⌋₊)

variable [IsStrictOrderedRing α] {g : ℕ → α} {r r' : α}

lemma le_interpolate (hg : Monotone g) (hr : 0 ≤ r) : g ⌊r⌋₊ ≤ interpolate g r := by
  have hstep : 0 ≤ g (⌊r⌋₊ + 1) - g ⌊r⌋₊ := sub_nonneg.mpr (hg (Nat.le_succ _))
  have hfrac : 0 ≤ r - ⌊r⌋₊ := sub_nonneg.mpr (Nat.floor_le hr)
  have hadd : 0 ≤ (g (⌊r⌋₊ + 1) - g ⌊r⌋₊) * (r - ⌊r⌋₊) := mul_nonneg hstep hfrac
  unfold interpolate
  linarith

lemma interpolate_le (hg : Monotone g) : interpolate g r ≤ g (⌊r⌋₊ + 1) := by
  have hstep : 0 ≤ g (⌊r⌋₊ + 1) - g ⌊r⌋₊ := sub_nonneg.mpr (hg (Nat.le_succ _))
  have hfrac : r - ⌊r⌋₊ ≤ 1 := by
    have hlt := Nat.lt_floor_add_one r
    linarith
  have hmul := mul_le_mul_of_nonneg_left hfrac hstep
  unfold interpolate
  linarith

/-- **Interpolation is monotone.** -/
theorem interpolate_mono (hg : Monotone g) (hr : 0 ≤ r) (hle : r ≤ r') :
    interpolate g r ≤ interpolate g r' := by
  have hfloor : ⌊r⌋₊ ≤ ⌊r'⌋₊ := Nat.floor_mono hle
  rcases hfloor.eq_or_lt with heq | hlt
  · -- between the same two indices
    have hstep : 0 ≤ g (⌊r'⌋₊ + 1) - g ⌊r'⌋₊ := sub_nonneg.mpr (hg (Nat.le_succ _))
    have hmul := mul_le_mul_of_nonneg_left (sub_le_sub_right hle (⌊r'⌋₊ : α)) hstep
    unfold interpolate
    rw [heq]
    linarith
  · calc interpolate g r ≤ g (⌊r⌋₊ + 1) := interpolate_le hg
      _ ≤ g ⌊r'⌋₊ := hg hlt
      _ ≤ interpolate g r' := le_interpolate hg (hr.trans hle)

end Interpolate

/-! ## Sorted lists as sequences -/

section Lists

variable {α : Type*} [Field α]

/-- The elements of a list, the last one repeated for ever. -/
def clamped (xs : List α) (k : ℕ) : α := xs.getD (min k (xs.length - 1)) 0

lemma getElem?_clamped {xs : List α} {k : ℕ} (hk : k < xs.length) :
    xs[k]? = some (clamped xs k) := by
  have hmin : min k (xs.length - 1) = k := by omega
  unfold clamped
  rw [hmin, List.getD_eq_getElem?_getD, List.getElem?_eq_getElem hk, Option.getD_some]

lemma clamped_mem {xs : List α} (hxs : xs ≠ []) (k : ℕ) : clamped xs k ∈ xs := by
  have hpos : 0 < xs.length := List.length_pos_iff.mpr hxs
  have hk : min k (xs.length - 1) < xs.length := by omega
  unfold clamped
  rw [List.getD_eq_getElem?_getD, List.getElem?_eq_getElem hk, Option.getD_some]
  exact List.getElem_mem hk

lemma clamped_mono [LinearOrder α] {xs : List α} (hxs : xs ≠ []) (hsorted : xs.Pairwise (· ≤ ·)) :
    Monotone (clamped xs) := by
  have hpos : 0 < xs.length := List.length_pos_iff.mpr hxs
  intro k k' hkk'
  have hk : min k (xs.length - 1) < xs.length := by omega
  have hk' : min k' (xs.length - 1) < xs.length := by omega
  unfold clamped
  rw [List.getD_eq_getElem?_getD, List.getD_eq_getElem?_getD, List.getElem?_eq_getElem hk,
    List.getElem?_eq_getElem hk', Option.getD_some, Option.getD_some]
  have hle : min k (xs.length - 1) ≤ min k' (xs.length - 1) := by omega
  rcases hle.eq_or_lt with heq | hlt
  · simp [heq]
  · exact List.pairwise_iff_getElem.mp hsorted _ _ hk hk' hlt

end Lists

end MiniatureWarehouse
