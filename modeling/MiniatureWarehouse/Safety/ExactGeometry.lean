import MiniatureWarehouse.Framework.RealMath
import MiniatureWarehouse.Safety.GuardLogic
import Mathlib

/-!
# The planar geometry of the guardian over the reals

Over exact arithmetic `distance` is the metric of the plane and `wrapAngle` picks from all angles
of one direction the one of least magnitude.  Both therefore obey a triangle inequality, which is
what the trackers of the guardian rest on when they add up increments.
-/

namespace MiniatureWarehouse

/-! ## Distances -/

/-- The planar point of two coordinates. -/
def planePoint (x y : ℝ) : ℂ := ⟨x, y⟩

/-- `distance` of finite points is the distance of the plane. -/
lemma distance_real_fin (ax ay bx b_y : ℝ) :
    distance (.exact ℝ) .real (.fin ax) (.fin ay) (.fin bx) (.fin b_y) =
      .fin (dist (planePoint ax ay) (planePoint bx b_y)) := by
  have hdist : dist (planePoint ax ay) (planePoint bx b_y) =
      Real.sqrt ((ax + -bx) ^ 2 + (ay + -b_y) ^ 2) := by
    rw [Complex.dist_eq_re_im]
    simp only [planePoint, sub_eq_add_neg]
  rw [hdist]
  rfl

/-! ## Angles -/

/-- No representative of a direction is smaller than the principal one. -/
lemma abs_toReal_coe_le (a : ℝ) : |(a : Real.Angle).toReal| ≤ |a| := by
  rcases lt_or_ge |a| Real.pi with hlt | hge
  · obtain ⟨hlow, hhigh⟩ := abs_lt.mp hlt
    have hself : (a : Real.Angle).toReal = a :=
      Real.Angle.toReal_coe_eq_self_iff.mpr ⟨hlow, hhigh.le⟩
    rw [hself]
  · exact (Real.Angle.abs_toReal_le_pi _).trans hge

/-- The triangle inequality for turns. -/
lemma abs_toReal_add_le (a b : Real.Angle) : |(a + b).toReal| ≤ |a.toReal| + |b.toReal| := by
  have hsum : ((a.toReal + b.toReal : ℝ) : Real.Angle) = a + b := by
    rw [Real.Angle.coe_add, Real.Angle.coe_toReal, Real.Angle.coe_toReal]
  calc |(a + b).toReal| = |((a.toReal + b.toReal : ℝ) : Real.Angle).toReal| := by rw [hsum]
    _ ≤ |a.toReal + b.toReal| := abs_toReal_coe_le _
    _ ≤ |a.toReal| + |b.toReal| := abs_add_le _ _

/-- `wrap_angle` of a finite angle is the principal representative of its direction. -/
lemma wrapAngle_real_fin (a : ℝ) :
    wrapAngle .real (.fin a) = .ok (.fin (a : Real.Angle).toReal) := by
  have harg : Complex.arg ⟨Real.cos a, Real.sin a⟩ = (a : Real.Angle).toReal := by
    have hpoint : (⟨Real.cos a, Real.sin a⟩ : ℂ) = Complex.cos a + Complex.sin a * Complex.I := by
      apply Complex.ext
      · simp [← Complex.ofReal_cos, ← Complex.ofReal_sin]
      · simp [← Complex.ofReal_cos, ← Complex.ofReal_sin]
    rw [hpoint, Complex.arg_cos_add_sin_mul_I_eq_toIocMod, Real.Angle.toReal_coe]
  rw [← harg]
  rfl

end MiniatureWarehouse
