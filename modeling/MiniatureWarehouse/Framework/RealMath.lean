import MiniatureWarehouse.Framework.Floats
import Mathlib.Analysis.SpecialFunctions.Complex.Arg

/-!
# The mathematical library over the reals

The functions of the C library read as the real functions they approximate.  With
`FloatFormat.exact ℝ` this is the exact arithmetic that a numerical guarantee is stated over.
-/

namespace MiniatureWarehouse

/-- The Euclidean norm, with an infinite leg winning over everything. -/
noncomputable def realHypot : PyFloat ℝ → PyFloat ℝ → PyFloat ℝ
  | .fin x, .fin y => .fin (Real.sqrt (x ^ 2 + y ^ 2))
  | .posInf, _ | .negInf, _ | _, .posInf | _, .negInf => .posInf
  | _, _ => .nan

/-- The angle of a point given by ordinate and abscissa, with the limits at infinity. -/
noncomputable def realAtan2 : PyFloat ℝ → PyFloat ℝ → PyFloat ℝ
  | .fin y, .fin x => .fin (Complex.arg ⟨x, y⟩)
  | .fin _, .posInf => .fin 0
  | .fin y, .negInf => .fin (if y < 0 then -Real.pi else Real.pi)
  | .posInf, .fin _ => .fin (Real.pi / 2)
  | .posInf, .posInf => .fin (Real.pi / 4)
  | .posInf, .negInf => .fin (3 * Real.pi / 4)
  | .negInf, .fin _ => .fin (-(Real.pi / 2))
  | .negInf, .posInf => .fin (-(Real.pi / 4))
  | .negInf, .negInf => .fin (-(3 * Real.pi / 4))
  | _, _ => .nan

/-- The library of exact real functions. -/
noncomputable def MathLib.real : MathLib ℝ where
  hypot := realHypot
  sin x := .fin (Real.sin x)
  cos x := .fin (Real.cos x)
  atan2 := realAtan2
  hypot_nonneg a b := by
    cases a <;> cases b <;> simp [realHypot, Real.sqrt_nonneg]

@[simp] lemma hypot_real_fin (x y : ℝ) :
    MathLib.real.hypot (.fin x) (.fin y) = .fin (Real.sqrt (x ^ 2 + y ^ 2)) := rfl

section Exact

variable {α : Type*} [Field α] [LinearOrder α] [IsStrictOrderedRing α]

@[simp] lemma exact_mul_fin (x y : α) : (FloatFormat.exact α).mul (.fin x) (.fin y) = .fin (x * y) :=
  rfl

@[simp] lemma exact_div_fin (x y : α) : (FloatFormat.exact α).div (.fin x) (.fin y) = .fin (x / y) :=
  rfl

end Exact

end MiniatureWarehouse
