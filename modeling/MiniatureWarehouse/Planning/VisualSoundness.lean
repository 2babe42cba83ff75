import MiniatureWarehouse.Framework.RayCasting
import MiniatureWarehouse.Framework.RealMath
import MiniatureWarehouse.Planning.VisualResolver
import Mathlib.LinearAlgebra.Matrix.Determinant.Basic

/-!
# What a resolved detection stands for

A detection that is resolved has passed every gate of the resolver: `Located` collects what they
establish in exact arithmetic, for any matrix and any polygon, with entries that may be infinite or
not numbers at all.  The one gate that is missing there is the ceiling of the reprojection error,
which compares with `>`: nothing is above a ceiling that is not a number, so that every error passes
such a ceiling.

`visual_resolution_sound` says that the resolver is sound except for that: what is resolved and not
justified was let through by a ceiling that is not a number.
-/

namespace MiniatureWarehouse

namespace VisualResolver

open RayCasting

/-! ## The projective map -/

section Homography

variable {α : Type*} [Field α] [LinearOrder α] [IsStrictOrderedRing α]

/-- The determinant of three rows of three, as the resolver computes it. -/
def determinant : List (List (PyFloat α)) → PyFloat α
  | [[a, b, c], [d, e, f], [g, h, i]] =>
    let F := FloatFormat.exact α
    F.add
      (F.sub (F.mul a (F.sub (F.mul e i) (F.mul f h))) (F.mul b (F.sub (F.mul d i) (F.mul f g))))
      (F.mul c (F.sub (F.mul d h) (F.mul e g)))
  | _ => .nan

/-- The rows are three of three entries, and their determinant is not near zero. -/
def Regular (homography : List (List (PyFloat α))) : Prop :=
  homography.length = 3 ∧ (∀ row ∈ homography, row.length = 3) ∧
    (tiny (FloatFormat.exact α)) < (determinant homography).abs

/-- A pixel is mapped to a point: it is in front of the horizon, and the point is finite. -/
structure MapsTo (homography : List (List (PyFloat α))) (u v x y : PyFloat α) : Prop where
  in_front : tiny (FloatFormat.exact α) < rowValue (FloatFormat.exact α) (homography.getD 2 []) u v
  abscissa : x = (FloatFormat.exact α).div
    (rowValue (FloatFormat.exact α) (homography.getD 0 []) u v)
    (rowValue (FloatFormat.exact α) (homography.getD 2 []) u v)
  ordinate : y = (FloatFormat.exact α).div
    (rowValue (FloatFormat.exact α) (homography.getD 1 []) u v)
    (rowValue (FloatFormat.exact α) (homography.getD 2 []) u v)
  finite_x : x.isFinite = true
  finite_y : y.isFinite = true

lemma eq_of_length_three {β : Type*} {xs : List β} (h : xs.length = 3) :
    ∃ a b c, xs = [a, b, c] := by
  match xs, h with
  | [a, b, c], _ => exact ⟨a, b, c, rfl⟩

lemma isValidHomography_iff {homography : List (List (PyFloat α))} :
    isValidHomography (FloatFormat.exact α) homography = true ↔ Regular homography := by
  constructor
  · intro h
    unfold isValidHomography at h
    split at h
    · refine ⟨rfl, ?_, of_decide_eq_true h⟩
      intro row hrow
      simp only [List.mem_cons, List.not_mem_nil, or_false] at hrow
      rcases hrow with rfl | rfl | rfl <;> rfl
    · cases h
  · rintro ⟨hlength, hrows, hdet⟩
    obtain ⟨r₀, r₁, r₂, rfl⟩ := eq_of_length_three hlength
    rw [List.forall_mem_cons, List.forall_mem_cons, List.forall_mem_cons] at hrows
    obtain ⟨h₀, h₁, h₂, -⟩ := hrows
    obtain ⟨a, b, c, rfl⟩ := eq_of_length_three h₀
    obtain ⟨d, e, f, rfl⟩ := eq_of_length_three h₁
    obtain ⟨g, h, i, rfl⟩ := eq_of_length_three h₂
    exact decide_eq_true hdet

/-- A quotient is a number only where the divisor is. -/
lemma ne_nan_of_isFinite_div {a b : PyFloat α}
    (h : ((FloatFormat.exact α).div a b).isFinite = true) : b ≠ .nan := by
  rintro rfl
  cases a <;> cases h

/-- The map of three rows gives a finite point exactly where it maps the pixel to it. -/
lemma applyHomography_iff {homography : List (List (PyFloat α))} (hlength : homography.length = 3)
    {u v x y : PyFloat α} :
    applyHomography (FloatFormat.exact α) homography u v = (x, y) ∧ x.isFinite = true ∧
        y.isFinite = true ↔
      MapsTo homography u v x y := by
  obtain ⟨r₀, r₁, r₂, rfl⟩ := eq_of_length_three hlength
  unfold applyHomography
  dsimp only
  constructor
  · rintro ⟨happly, hx, hy⟩
    split_ifs at happly with hw
    · obtain ⟨rfl, rfl⟩ := Prod.mk.inj happly
      cases hx
    · obtain ⟨rfl, rfl⟩ := Prod.mk.inj happly
      refine ⟨?_, rfl, rfl, hx, hy⟩
      by_contra hlt
      exact hw (PyFloat.le_of_not_lt (ne_nan_of_isFinite_div hx) (by intro h; cases h) hlt)
  · rintro ⟨hfront, hxw, hyw, hx, hy⟩
    refine ⟨(if_neg fun hle => PyFloat.not_lt_of_le hle hfront).trans ?_, hx, hy⟩
    exact Prod.ext hxw.symm hyw.symm

/-- The rows of a matrix of numbers. -/
def rowsOf (M : Matrix (Fin 3) (Fin 3) α) : List (List (PyFloat α)) :=
  [[.fin (M 0 0), .fin (M 0 1), .fin (M 0 2)], [.fin (M 1 0), .fin (M 1 1), .fin (M 1 2)],
    [.fin (M 2 0), .fin (M 2 1), .fin (M 2 2)]]

/-- Of numbers it is the determinant. -/
lemma determinant_rowsOf (M : Matrix (Fin 3) (Fin 3) α) :
    determinant (rowsOf M) = .fin M.det := by
  have hdet : determinant (rowsOf M) = .fin (M 0 0 * (M 1 1 * M 2 2 + -(M 1 2 * M 2 1)) +
      -(M 0 1 * (M 1 0 * M 2 2 + -(M 1 2 * M 2 0))) +
      M 0 2 * (M 1 0 * M 2 1 + -(M 1 1 * M 2 0))) := rfl
  rw [hdet, Matrix.det_fin_three]
  congr 1
  ring

/-- Of numbers it is the projective map: the image of the homogeneous pixel is a multiple of the
homogeneous point, by a positive weight. -/
lemma mapsTo_rowsOf_iff {M : Matrix (Fin 3) (Fin 3) α} {u v x y : α} :
    MapsTo (rowsOf M) (.fin u) (.fin v) (.fin x) (.fin y) ↔
      ∃ w : α, 1 / 10 ^ 12 < w ∧ M.mulVec ![u, v, 1] = w • ![x, y, 1] := by
  have hvec : ∀ i, M.mulVec ![u, v, 1] i = M i 0 * u + M i 1 * v + M i 2 := by
    intro i
    simp [Matrix.mulVec, dotProduct, Fin.sum_univ_three]
  have hrow : ∀ i : Fin 3, rowValue (FloatFormat.exact α)
      [.fin (M i 0), .fin (M i 1), .fin (M i 2)] (.fin u) (.fin v) =
        .fin (M.mulVec ![u, v, 1] i) := by
    intro i
    rw [hvec]
    rfl
  have hweight : (0 : α) < 1 / 10 ^ 12 := by positivity
  constructor
  · rintro ⟨hfront, hx, hy, -, -⟩
    have hfront' : (1 / 10 ^ 12 : α) < M.mulVec ![u, v, 1] 2 := by
      have h : tiny (FloatFormat.exact α) < .fin (M.mulVec ![u, v, 1] 2) := hrow 2 ▸ hfront
      exact h
    have hne : M.mulVec ![u, v, 1] 2 ≠ 0 := (hweight.trans hfront').ne'
    have hx' : x = M.mulVec ![u, v, 1] 0 / M.mulVec ![u, v, 1] 2 := by
      have h : PyFloat.fin x = (FloatFormat.exact α).div (.fin (M.mulVec ![u, v, 1] 0))
          (.fin (M.mulVec ![u, v, 1] 2)) := hrow 0 ▸ hrow 2 ▸ hx
      exact PyFloat.fin.inj h
    have hy' : y = M.mulVec ![u, v, 1] 1 / M.mulVec ![u, v, 1] 2 := by
      have h : PyFloat.fin y = (FloatFormat.exact α).div (.fin (M.mulVec ![u, v, 1] 1))
          (.fin (M.mulVec ![u, v, 1] 2)) := hrow 1 ▸ hrow 2 ▸ hy
      exact PyFloat.fin.inj h
    refine ⟨_, hfront', ?_⟩
    rw [hx', hy']
    ext i
    fin_cases i
    · simp [mul_div_cancel₀ _ hne]
    · simp [mul_div_cancel₀ _ hne]
    · simp
  · rintro ⟨w, hw, hmap⟩
    have h₀ : M.mulVec ![u, v, 1] 0 = w * x := by rw [hmap]; simp
    have h₁ : M.mulVec ![u, v, 1] 1 = w * y := by rw [hmap]; simp
    have h₂ : M.mulVec ![u, v, 1] 2 = w := by rw [hmap]; simp
    have hne : w ≠ 0 := (hweight.trans hw).ne'
    refine ⟨?_, ?_, ?_, rfl, rfl⟩
    · show tiny (FloatFormat.exact α) < rowValue (FloatFormat.exact α)
        [.fin (M 2 0), .fin (M 2 1), .fin (M 2 2)] (.fin u) (.fin v)
      rw [hrow 2, h₂]
      exact hw
    · show PyFloat.fin x = (FloatFormat.exact α).div
        (rowValue _ [.fin (M 0 0), .fin (M 0 1), .fin (M 0 2)] _ _)
        (rowValue _ [.fin (M 2 0), .fin (M 2 1), .fin (M 2 2)] _ _)
      rw [hrow 0, hrow 2, h₀, h₂, exact_div_fin, mul_div_cancel_left₀ _ hne]
    · show PyFloat.fin y = (FloatFormat.exact α).div
        (rowValue _ [.fin (M 1 0), .fin (M 1 1), .fin (M 1 2)] _ _)
        (rowValue _ [.fin (M 2 0), .fin (M 2 1), .fin (M 2 2)] _ _)
      rw [hrow 1, hrow 2, h₁, h₂, exact_div_fin, mul_div_cancel_left₀ _ hne]

end Homography

/-! ## The gates -/

section Gates

variable {α : Type*} [Field α] [LinearOrder α] [IsStrictOrderedRing α]

/-- A pixel in the space of the calibration: as it is, or scaled to the size of the image. -/
def ScaledPixel (cal : Calibration α) (u v : ℤ) (p q : α) : Prop :=
  (cal.pixelSpace = "raw" ∧ p = u ∧ q = v) ∨
  (cal.pixelSpace = "normalized_0_1000" ∧ ∃ w h : ℤ, cal.imageSize = some [w, h] ∧ 0 < w ∧ 0 < h ∧
    (0 ≤ u ∧ u ≤ 1000) ∧ (0 ≤ v ∧ v ≤ 1000) ∧ p = u * (w / 1000) ∧ q = v * (h / 1000))

/-- The calibration maps a pixel to a finite point of the map. -/
def MapsPixel (cal : Calibration α) (pixel : List ℤ) (x y : PyFloat α) : Prop :=
  ∃ u v rest p q, pixel = u :: v :: rest ∧ ScaledPixel cal u v p q ∧
    MapsTo cal.homography (.fin p) (.fin q) x y

/-- The polygon has three vertices or more, and a ray from the point crosses it an odd number of
times. -/
def InsidePolygon (polygon : List (List (PyFloat α))) (x y : PyFloat α) : Prop :=
  ∃ vs, polygon.mapM vertex? = some vs ∧ 3 ≤ vs.length ∧
    Odd (crossingNumber (fun a b => crosses (FloatFormat.exact α) x y b a) vs)

variable (L : MathLib α)

/-- The known locations of a table, with their distances from a point. -/
def distances (x y : PyFloat α) (entries : List (String × PyFloat α × PyFloat α)) :
    List (String × PyFloat α) :=
  (entries.filter fun e => isKnownLocation e.1).map fun e =>
    (e.1, L.hypot ((FloatFormat.exact α).sub x e.2.1) ((FloatFormat.exact α).sub y e.2.2))

/-- The first of the nearest: none before it is as near, and none behind it nearer. -/
def IsNearest (ds : List (String × PyFloat α)) (d : String) (dist : PyFloat α) : Prop :=
  ∃ before behind, ds = before ++ (d, dist) :: behind ∧ dist < .posInf ∧
    (∀ e ∈ before, ¬ e.2 ≤ dist) ∧ ∀ e ∈ behind, ¬ e.2 < dist

/-- What a detection that is resolved to a location has passed, apart from the ceiling of the
reprojection error. -/
structure LocatedAt (policy : VisualPolicy α) (cal : Calibration α) (detection : Detection α)
    (d : String) (x y : PyFloat α) : Prop where
  regular : Regular cal.homography
  maps : MapsPixel cal detection.pixel x y
  inside : InsidePolygon cal.validPolygon x y
  finite_radius : policy.snapRadius.isFinite = true
  nearest : ∃ dist, IsNearest (distances L x y policy.locationCoords.entries) d dist ∧
    dist ≤ policy.snapRadius
  agrees : ∀ color expected, detection.color = some color →
    policy.locationClasses.get? d = some expected → color = expected

/-- The same, for the point that the pixel is mapped to. -/
def Located (policy : VisualPolicy α) (cal : Calibration α) (detection : Detection α)
    (d : String) : Prop :=
  ∃ x y, LocatedAt L policy cal detection d x y

/-- The declared error is finite and not above the ceiling. -/
def PassesCeiling (policy : VisualPolicy α) (cal : Calibration α) : Prop :=
  ∀ e, cal.reprojectionError = some e → e.isFinite = true ∧ ¬ policy.maxReprojectionError < e

/-- The declared error is within the ceiling. -/
def WithinCeiling (policy : VisualPolicy α) (cal : Calibration α) : Prop :=
  ∀ e, cal.reprojectionError = some e → e.isFinite = true ∧ e ≤ policy.maxReprojectionError

/-! ### Calibration and pixel -/

lemma calibrationDefect_eq_none {policy : VisualPolicy α} {cal : Calibration α} :
    calibrationDefect (FloatFormat.exact α) policy cal = none ↔
      Regular cal.homography ∧ PassesCeiling policy cal := by
  unfold calibrationDefect PassesCeiling
  rw [← isValidHomography_iff]
  cases isValidHomography (FloatFormat.exact α) cal.homography with
  | false => simp
  | true =>
    cases cal.reprojectionError with
    | none => simp
    | some e => simp

lemma toFloat_int (n : ℤ) :
    (PyVal.int n : PyVal α).toFloat (FloatFormat.exact α) = .ok (.fin (n : α)) := rfl

/-- The space of the pixels does not raise, and scales a pixel or refuses it. -/
lemma pixelScale_exact (cal : Calibration α) :
    (cal.pixelSpace = "raw" ∧
      pixelScale (FloatFormat.exact α) cal = .ok (some (.fin 1, .fin 1))) ∨
    (∃ w h : ℤ, cal.pixelSpace = "normalized_0_1000" ∧ cal.imageSize = some [w, h] ∧ 0 < w ∧ 0 < h ∧
      pixelScale (FloatFormat.exact α) cal =
        .ok (some (.fin ((w : α) / 1000), .fin ((h : α) / 1000)))) ∨
    (pixelScale (FloatFormat.exact α) cal = .ok none ∧ ∀ u v p q, ¬ ScaledPixel cal u v p q) := by
  unfold pixelScale
  by_cases hraw : cal.pixelSpace = "raw"
  · exact .inl ⟨hraw, if_pos hraw⟩
  rw [if_neg hraw]
  by_cases hnormalized : cal.pixelSpace = "normalized_0_1000"
  · rw [if_pos hnormalized]
    have hnone : (∀ w h : ℤ, cal.imageSize = some [w, h] → ¬ (0 < w ∧ 0 < h)) →
        ∀ u v (p q : α), ¬ ScaledPixel cal u v p q := by
      rintro hsize u v p q (⟨hspace, -⟩ | ⟨-, w, h, hwh, hw, hh, -⟩)
      · exact hraw hspace
      · exact hsize w h hwh ⟨hw, hh⟩
    split
    · rename_i w h hsize
      by_cases hpos : w ≤ 0 ∨ h ≤ 0
      · rw [if_pos hpos]
        refine .inr (.inr ⟨rfl, hnone fun w' h' hsize' hpos' => ?_⟩)
        rw [hsize] at hsize'
        obtain ⟨rfl, rfl⟩ : w = w' ∧ h = h' := by simpa using hsize'
        omega
      · rw [if_neg hpos]
        exact .inr (.inl ⟨w, h, hnormalized, hsize, by omega, by omega, rfl⟩)
    · rename_i hshape
      exact .inr (.inr ⟨rfl, hnone fun w h hsize _ => hshape w h hsize⟩)
  · rw [if_neg hnormalized]
    refine .inr (.inr ⟨rfl, ?_⟩)
    rintro u v p q (⟨hspace, -⟩ | ⟨hspace, -⟩)
    · exact hraw hspace
    · exact hnormalized hspace

/-- The point of a pixel after its scaling, if it is finite. -/
def pointOf (cal : Calibration α) (p q : α) : Except UnresolvedReason (PyFloat α × PyFloat α) :=
  let point := applyHomography (FloatFormat.exact α) cal.homography (.fin p) (.fin q)
  if point.1.isFinite && point.2.isFinite then .ok point else .error .offMap

lemma pointOf_eq_ok {cal : Calibration α} (hregular : Regular cal.homography) {p q : α}
    {x y : PyFloat α} :
    pointOf cal p q = .ok (x, y) ↔ MapsTo cal.homography (.fin p) (.fin q) x y := by
  rw [← applyHomography_iff hregular.1]
  unfold pointOf
  dsimp only
  constructor
  · intro h
    split_ifs at h with hfinite
    have hpoint := Except.ok.inj h
    rw [hpoint] at hfinite ⊢
    exact ⟨rfl, (Bool.and_eq_true _ _).mp hfinite⟩
  · rintro ⟨hpoint, hx, hy⟩
    rw [hpoint, hx, hy]
    rfl

/-- The range of a normalised pixel. -/
def InRange (u v : ℤ) : Prop := (0 ≤ u ∧ u ≤ 1000) ∧ 0 ≤ v ∧ v ≤ 1000

lemma inRange_fin (n : ℤ) :
    (decide ((.fin 0 : PyFloat α) ≤ .fin (n : α)) && decide (.fin (n : α) ≤ (.fin 1000 : PyFloat α)))
      = decide (0 ≤ n ∧ n ≤ 1000) := by
  rw [Bool.decide_and]
  congr 1
  · exact decide_eq_decide.mpr (PyFloat.fin_le_fin.trans Int.cast_nonneg_iff)
  · refine decide_eq_decide.mpr (PyFloat.fin_le_fin.trans ?_)
    exact_mod_cast Iff.rfl

/-- The mapping of a pixel does not raise. -/
lemma mapPoint_exact (cal : Calibration α) (u v : ℤ) (rest : List ℤ) :
    (cal.pixelSpace = "raw" ∧
      mapPoint (FloatFormat.exact α) cal (u :: v :: rest) = .ok (pointOf cal u v)) ∨
    (∃ w h : ℤ, cal.pixelSpace = "normalized_0_1000" ∧ cal.imageSize = some [w, h] ∧ 0 < w ∧ 0 < h ∧
      (InRange u v ∧ mapPoint (FloatFormat.exact α) cal (u :: v :: rest) =
          .ok (pointOf cal (u * (w / 1000)) (v * (h / 1000))) ∨
        ¬ InRange u v ∧
          mapPoint (FloatFormat.exact α) cal (u :: v :: rest) = .ok (.error .offMap))) ∨
    (mapPoint (FloatFormat.exact α) cal (u :: v :: rest) = .ok (.error .noCalibration) ∧
      ∀ u v p q, ¬ ScaledPixel cal u v p q) := by
  unfold mapPoint
  dsimp only
  rw [toFloat_int, toFloat_int]
  rcases pixelScale_exact cal with ⟨hraw, hscale⟩ | ⟨w, h, hspace, hsize, hw, hh, hscale⟩ |
    ⟨hscale, hnone⟩
  · refine .inl ⟨hraw, ?_⟩
    rw [hscale, hraw]
    have hother : decide ("raw" = "normalized_0_1000") = false := rfl
    simp only [bind, Except.bind, pure, Except.pure, ne_eq, not_true_eq_false, decide_false,
      hother, Bool.false_or, Bool.false_and, if_neg Bool.false_ne_true]
    unfold pointOf
    dsimp only
    split_ifs <;> rfl
  · refine .inr (.inl ⟨w, h, hspace, hsize, hw, hh, ?_⟩)
    rw [hscale, hspace]
    simp only [bind, Except.bind, pure, Except.pure, decide_true, Bool.or_true, Bool.true_and,
      inRange_fin]
    by_cases hrange : InRange u v
    · refine .inl ⟨hrange, ?_⟩
      rw [decide_eq_true hrange.1, decide_eq_true hrange.2]
      simp only [Bool.and_self, Bool.not_true, if_neg Bool.false_ne_true, if_true]
      unfold pointOf
      dsimp only [exact_mul_fin]
      split
      · rename_i hfinite
        exact if_pos hfinite
      · rename_i hfinite
        exact if_neg hfinite
    · refine .inr ⟨hrange, ?_⟩
      have hout : (decide (0 ≤ u ∧ u ≤ 1000) && decide (0 ≤ v ∧ v ≤ 1000)) = false := by
        rw [← Bool.decide_and]
        exact decide_eq_false hrange
      rw [hout]
      rfl
  · refine .inr (.inr ⟨?_, hnone⟩)
    rw [hscale]
    rfl

lemma exists_mapPoint (cal : Calibration α) (pixel : List ℤ) :
    ∃ point, mapPoint (FloatFormat.exact α) cal pixel = .ok point := by
  match pixel with
  | [] | [_] => exact ⟨_, rfl⟩
  | u :: v :: rest =>
    rcases mapPoint_exact cal u v rest with ⟨-, h⟩ | ⟨w, h, -, -, -, -, ⟨-, h⟩ | ⟨-, h⟩⟩ | ⟨h, -⟩ <;>
      exact ⟨_, h⟩

/-- A valid calibration gives a finite point exactly where it maps the pixel to it. -/
lemma mapPoint_iff {cal : Calibration α} (hregular : Regular cal.homography) {pixel : List ℤ}
    {x y : PyFloat α} :
    mapPoint (FloatFormat.exact α) cal pixel = .ok (.ok (x, y)) ↔ MapsPixel cal pixel x y := by
  match pixel with
  | [] | [_] =>
    refine iff_of_false (fun h => by cases h) ?_
    rintro ⟨u, v, rest, p, q, hpixel, -⟩
    cases hpixel
  | u :: v :: rest =>
    have hspaces : ¬ "raw" = "normalized_0_1000" := by decide
    rcases mapPoint_exact cal u v rest with ⟨hraw, hmap⟩ |
      ⟨w, h, hspace, hsize, hw, hh, ⟨hrange, hmap⟩ | ⟨hrange, hmap⟩⟩ | ⟨hmap, hnone⟩
    · rw [hmap, Except.ok.injEq, pointOf_eq_ok hregular]
      constructor
      · intro h
        exact ⟨u, v, rest, u, v, rfl, .inl ⟨hraw, rfl, rfl⟩, h⟩
      · rintro ⟨u', v', rest', p, q, hpixel, ⟨-, rfl, rfl⟩ | ⟨hother, -⟩, h⟩
        · obtain ⟨rfl, htail⟩ := List.cons.inj hpixel
          obtain ⟨rfl, -⟩ := List.cons.inj htail
          exact h
        · exact absurd (hraw.symm.trans hother) hspaces
    · rw [hmap, Except.ok.injEq, pointOf_eq_ok hregular]
      constructor
      · intro hpoint
        exact ⟨u, v, rest, _, _, rfl,
          .inr ⟨hspace, w, h, hsize, hw, hh, hrange.1, hrange.2, rfl, rfl⟩, hpoint⟩
      · rintro ⟨u', v', rest', p, q, hpixel, ⟨hother, -⟩ | ⟨-, w', h', hsize', -, -, -, -, rfl, rfl⟩,
          hpoint⟩
        · exact absurd (hother.symm.trans hspace) hspaces
        · obtain ⟨rfl, htail⟩ := List.cons.inj hpixel
          obtain ⟨rfl, -⟩ := List.cons.inj htail
          rw [hsize] at hsize'
          obtain ⟨rfl, rfl⟩ : w = w' ∧ h = h' := by simpa using hsize'
          exact hpoint
    · rw [hmap]
      refine iff_of_false (fun h => by cases h) ?_
      rintro ⟨u', v', rest', p, q, hpixel, ⟨hother, -⟩ | ⟨-, -, -, -, -, -, hu, hv, -⟩, -⟩
      · exact absurd (hother.symm.trans hspace) hspaces
      · obtain ⟨rfl, htail⟩ := List.cons.inj hpixel
        obtain ⟨rfl, -⟩ := List.cons.inj htail
        exact hrange ⟨hu, hv⟩
    · rw [hmap]
      refine iff_of_false (fun h => by cases h) ?_
      rintro ⟨u', v', rest', p, q, -, hscaled, -⟩
      exact hnone u' v' p q hscaled

/-! ### The polygon -/

lemma edgeCrosses_exact (x y : PyFloat α) (a b : PyFloat α × PyFloat α) :
    edgeCrosses (FloatFormat.exact α) x y a b = .ok (crosses (FloatFormat.exact α) x y a b) := by
  unfold edgeCrosses crosses
  dsimp only
  by_cases hsame : decide (y < a.2) = decide (y < b.2)
  · have hstraddles : straddles y a b = false := by
      unfold straddles
      rw [hsame]
      exact Bool.xor_self _
    rw [if_pos hsame, hstraddles]
    rfl
  · have hstraddles : straddles y a b = true := by
      unfold straddles
      exact bne_iff_ne.mpr hsame
    rw [if_neg hsame, hstraddles]
    unfold pyDiv
    rw [if_neg (sub_ne_zero_of_straddles hstraddles)]
    rfl

/-- The loop flips its mark at every edge that crosses the ray. -/
lemma countCrossings_exact (x y : PyFloat α) (vs : List (PyFloat α × PyFloat α))
    (vⱼ : PyFloat α × PyFloat α) (inside : Bool) :
    countCrossings (FloatFormat.exact α) x y vs vⱼ inside =
      .ok (inside != decide (Odd ((path vⱼ vs).countP fun e =>
        crosses (FloatFormat.exact α) x y e.2 e.1))) := by
  induction vs generalizing vⱼ inside with
  | nil =>
    rw [countCrossings, path, List.countP_nil]
    simp
  | cons vᵢ vs ih =>
    unfold countCrossings
    rw [edgeCrosses_exact]
    show countCrossings (FloatFormat.exact α) x y vs vᵢ
      (inside != crosses (FloatFormat.exact α) x y vᵢ vⱼ) = _
    rw [ih, path, List.countP_cons, bne_odd_succ]

omit [Field α] [LinearOrder α] [IsStrictOrderedRing α] in
lemma length_of_mapM_vertex? {polygon : List (List (PyFloat α))}
    {vs : List (PyFloat α × PyFloat α)} (h : polygon.mapM vertex? = some vs) :
    vs.length = polygon.length := by
  induction polygon generalizing vs with
  | nil =>
    obtain rfl : [] = vs := Option.some.inj h
    rfl
  | cons row polygon ih =>
    rw [List.mapM_cons] at h
    obtain ⟨v, -, h⟩ := Option.bind_eq_some_iff.mp h
    obtain ⟨vs', hvs', h⟩ := Option.bind_eq_some_iff.mp h
    obtain rfl : v :: vs' = vs := Option.some.inj h
    rw [List.length_cons, List.length_cons, ih hvs']

/-- The crossing test of the resolver. -/
lemma pointInPolygon_exact (x y : PyFloat α) (polygon : List (List (PyFloat α))) :
    ∃ inside, pointInPolygon (FloatFormat.exact α) x y polygon = .ok inside ∧
      (inside = true ↔ InsidePolygon polygon x y) := by
  unfold pointInPolygon InsidePolygon
  by_cases hshort : polygon.length < 3
  · rw [if_pos hshort]
    refine ⟨false, rfl, iff_of_false Bool.false_ne_true ?_⟩
    rintro ⟨vs, hvs, hlength, -⟩
    have hsame : vs.length = polygon.length := length_of_mapM_vertex? hvs
    omega
  · rw [if_neg hshort]
    cases hvs : polygon.mapM vertex? with
    | none =>
      refine ⟨false, rfl, iff_of_false Bool.false_ne_true ?_⟩
      rintro ⟨vs, hsome, -⟩
      cases hsome
    | some vs =>
      have hsame : vs.length = polygon.length := length_of_mapM_vertex? hvs
      dsimp only
      rw [countCrossings_exact]
      refine ⟨_, rfl, ?_⟩
      have hlong : 3 ≤ vs.length := by omega
      cases vs with
      | nil => simp at hlong
      | cons v vs =>
        rw [List.getLastD_cons, ← crossingNumber_cons fun a b => crosses (FloatFormat.exact α) x y b a,
          Bool.false_bne, decide_eq_true_iff]
        constructor
        · intro hodd
          exact ⟨_, rfl, hlong, hodd⟩
        · rintro ⟨vs', hvs', -, hodd⟩
          rw [Option.some.inj hvs']
          exact hodd

/-! ### The nearest location -/

/-- The step of the search: a candidate replaces what is strictly farther. -/
def nearer (best e : String × PyFloat α) : String × PyFloat α := if e.2 < best.2 then e else best

lemma nearestLoop_eq (x y : PyFloat α) (entries : List (String × PyFloat α × PyFloat α))
    (best : String × PyFloat α) :
    nearestLoop (FloatFormat.exact α) L x y entries best =
      (distances L x y entries).foldl nearer best := by
  induction entries generalizing best with
  | nil => rfl
  | cons e entries ih =>
    obtain ⟨name, lx, ly⟩ := e
    unfold nearestLoop
    by_cases hknown : isKnownLocation name = true
    · have hcons : distances L x y ((name, lx, ly) :: entries) =
          (name, L.hypot ((FloatFormat.exact α).sub x lx) ((FloatFormat.exact α).sub y ly)) ::
            distances L x y entries := by
        unfold distances
        rw [List.filter_cons_of_pos (by exact hknown), List.map_cons]
      rw [if_pos hknown, hcons, List.foldl_cons]
      exact ih _
    · have hcons : distances L x y ((name, lx, ly) :: entries) = distances L x y entries := by
        unfold distances
        rw [List.filter_cons_of_neg (by exact hknown)]
      rw [if_neg hknown, hcons]
      exact ih _

omit [Field α] [IsStrictOrderedRing α] in
lemma lt_of_le_of_lt {a b c : PyFloat α} (hab : a ≤ b) (hbc : b < c) : a < c := by
  by_contra h
  have hca : c ≤ a := PyFloat.le_of_not_lt (by rintro rfl; exact PyFloat.not_lt_nan hbc)
    (PyFloat.ne_nan_of_le hab).1 h
  exact PyFloat.not_lt_of_le (PyFloat.le_trans hca hab) hbc

omit [Field α] [IsStrictOrderedRing α] in
/-- What stays farther than a distance is replaced by what is farther, too. -/
lemma lt_foldl_nearer {dist : PyFloat α} {before : List (String × PyFloat α)}
    {best : String × PyFloat α} (hbest : dist < best.2) (hbefore : ∀ e ∈ before, ¬ e.2 ≤ dist) :
    dist < (before.foldl nearer best).2 := by
  induction before generalizing best with
  | nil => exact hbest
  | cons e before ih =>
    obtain ⟨hhead, htail⟩ := List.forall_mem_cons.mp hbefore
    refine ih ?_ htail
    unfold nearer
    split_ifs with hlt
    · by_contra hnot
      refine hhead (PyFloat.le_of_not_lt ?_ ?_ hnot)
      · intro hnan
        rw [hnan] at hlt
        exact PyFloat.not_nan_lt hlt
      · rintro rfl
        exact PyFloat.not_nan_lt hbest
    · exact hbest

omit [Field α] [IsStrictOrderedRing α] in
lemma foldl_nearer_of_not_lt {behind : List (String × PyFloat α)} {best : String × PyFloat α}
    (h : ∀ e ∈ behind, ¬ e.2 < best.2) : behind.foldl nearer best = best := by
  induction behind with
  | nil => rfl
  | cons e behind ih =>
    obtain ⟨hhead, htail⟩ := List.forall_mem_cons.mp h
    rw [List.foldl_cons, nearer, if_neg hhead]
    exact ih htail

omit [Field α] [IsStrictOrderedRing α] in
/-- The search ends with what it started with, or with the first of the nearest. -/
lemma foldl_nearer_cases (ds : List (String × PyFloat α)) (best : String × PyFloat α) :
    (ds.foldl nearer best = best ∧ ∀ e ∈ ds, ¬ e.2 < best.2) ∨
    ((ds.foldl nearer best).2 < best.2 ∧
      ∃ before behind, ds = before ++ ds.foldl nearer best :: behind ∧
        (∀ e ∈ before, ¬ e.2 ≤ (ds.foldl nearer best).2) ∧
        ∀ e ∈ behind, ¬ e.2 < (ds.foldl nearer best).2) := by
  induction ds generalizing best with
  | nil => exact .inl ⟨rfl, fun e he => absurd he List.not_mem_nil⟩
  | cons e ds ih =>
    rw [List.foldl_cons]
    by_cases hlt : e.2 < best.2
    · have hnearer : nearer best e = e := if_pos hlt
      rw [hnearer]
      rcases ih e with ⟨hsame, hfar⟩ | ⟨hless, before, behind, hds, hbefore, hbehind⟩
      · rw [hsame]
        exact .inr ⟨hlt, [], ds, rfl, fun e he => absurd he List.not_mem_nil, hfar⟩
      · refine .inr ⟨PyFloat.lt_of_lt_of_le hless (PyFloat.le_of_lt hlt), e :: before, behind,
          congrArg (e :: ·) hds, ?_, hbehind⟩
        exact List.forall_mem_cons.mpr ⟨fun hle => PyFloat.not_lt_of_le hle hless, hbefore⟩
    · have hnearer : nearer best e = best := if_neg hlt
      rw [hnearer]
      rcases ih best with ⟨hsame, hfar⟩ | ⟨hless, before, behind, hds, hbefore, hbehind⟩
      · exact .inl ⟨hsame, List.forall_mem_cons.mpr ⟨hlt, hfar⟩⟩
      · refine .inr ⟨hless, e :: before, behind, congrArg (e :: ·) hds, ?_, hbehind⟩
        exact List.forall_mem_cons.mpr ⟨fun hle => hlt (lt_of_le_of_lt hle hless), hbefore⟩

omit [Field α] [IsStrictOrderedRing α] in
/-- The search finds the first of the nearest. -/
lemma isNearest_iff {ds : List (String × PyFloat α)} {d : String} {dist : PyFloat α} :
    IsNearest ds d dist ↔ ds.foldl nearer ("", .posInf) = (d, dist) ∧ dist < .posInf := by
  constructor
  · rintro ⟨before, behind, rfl, hfinite, hbefore, hbehind⟩
    refine ⟨?_, hfinite⟩
    rw [List.foldl_append, List.foldl_cons]
    have hless : dist < (before.foldl nearer ("", .posInf)).2 := lt_foldl_nearer hfinite hbefore
    have hnearer : nearer (before.foldl nearer ("", .posInf)) (d, dist) = (d, dist) := if_pos hless
    rw [hnearer]
    exact foldl_nearer_of_not_lt hbehind
  · rintro ⟨hfold, hfinite⟩
    rcases foldl_nearer_cases ds ("", .posInf) with
      ⟨hsame, -⟩ | ⟨-, before, behind, hds, hbefore, hbehind⟩
    · rw [hfold] at hsame
      rw [(Prod.mk.inj hsame).2] at hfinite
      cases hfinite
    · rw [hfold] at hds hbefore hbehind
      exact ⟨before, behind, hds, hfinite, hbefore, hbehind⟩

/-- The search comes back without a name where it finds nothing. -/
lemma name_eq_empty_iff (x y : PyFloat α) (entries : List (String × PyFloat α × PyFloat α)) :
    ((distances L x y entries).foldl nearer ("", .posInf)).1 = "" ↔
      ¬ ((distances L x y entries).foldl nearer ("", .posInf)).2 < .posInf := by
  rcases foldl_nearer_cases (distances L x y entries) ("", .posInf) with
    ⟨hsame, -⟩ | ⟨hless, before, behind, hds, -⟩
  · rw [hsame]
    exact iff_of_true rfl PyFloat.not_posInf_lt
  · refine iff_of_false (fun hname => ?_) (not_not_intro hless)
    obtain ⟨r, hr⟩ : ∃ r, r = (distances L x y entries).foldl nearer ("", .posInf) := ⟨_, rfl⟩
    rw [← hr] at hds hname
    have hmem : r ∈ distances L x y entries := by
      rw [hds]
      exact List.mem_append_right before List.mem_cons_self
    obtain ⟨e, he, rfl⟩ := List.mem_map.mp hmem
    have hknown : isKnownLocation e.1 = true := (List.mem_filter.mp he).2
    have hempty : isKnownLocation "" = false := by decide
    rw [show e.1 = "" from hname, hempty] at hknown
    cases hknown

omit [Field α] [LinearOrder α] [IsStrictOrderedRing α] in
lemma classMismatch_eq_false {policy : VisualPolicy α} {d : String} {color : Option String} :
    classMismatch policy d color = false ↔
      ∀ c expected, color = some c → policy.locationClasses.get? d = some expected →
        c = expected := by
  unfold classMismatch
  cases color with
  | none => simp
  | some c =>
    cases policy.locationClasses.get? d with
    | none => simp
    | some expected => simp

/-- A snap names the first of the nearest locations, if it is within a finite radius and its class
agrees. -/
lemma snap_exact (policy : VisualPolicy α) (detection : Detection α) (x y : PyFloat α) :
    let target := snap (FloatFormat.exact α) L policy detection x y
    (target.resolution = .unresolved ∧ target.destination = none ∨
      ∃ d, target.resolution = .knownLocation ∧ target.destination = some d) ∧
    ∀ d, target.destination = some d ↔ policy.snapRadius.isFinite = true ∧
      (∃ dist, IsNearest (distances L x y policy.locationCoords.entries) d dist ∧
        dist ≤ policy.snapRadius) ∧
      ∀ color expected, detection.color = some color →
        policy.locationClasses.get? d = some expected → color = expected := by
  dsimp only
  unfold snap nearestKnownLocation
  rw [nearestLoop_eq]
  have hempty := name_eq_empty_iff L x y policy.locationCoords.entries
  have hnearest : ∀ d dist, IsNearest (distances L x y policy.locationCoords.entries) d dist ↔
      (distances L x y policy.locationCoords.entries).foldl nearer ("", .posInf) = (d, dist) ∧
        dist < .posInf := fun _ _ => isNearest_iff
  generalize (distances L x y policy.locationCoords.entries).foldl nearer ("", .posInf) = r
    at hempty hnearest
  obtain ⟨name, dist⟩ := r
  dsimp only at hempty hnearest ⊢
  have hradius : policy.snapRadius.isFinite = true → dist < .posInf →
      (¬ policy.snapRadius < dist ↔ dist ≤ policy.snapRadius) := by
    intro hfinite hdist
    refine ⟨fun h => PyFloat.le_of_not_lt ?_ ?_ h, PyFloat.not_lt_of_le⟩
    · rintro rfl
      exact PyFloat.not_nan_lt hdist
    · intro hnan
      rw [hnan] at hfinite
      cases hfinite
  by_cases hrefused : name = "" ∨ (!policy.snapRadius.isFinite) = true ∨ policy.snapRadius < dist
  · rw [if_pos hrefused]
    refine ⟨.inl ⟨rfl, rfl⟩, fun d => iff_of_false (fun h => by cases h) ?_⟩
    rintro ⟨hfinite, ⟨dist', hd, hle⟩, -⟩
    obtain ⟨heq, hdist⟩ := (hnearest _ _).mp hd
    obtain ⟨rfl, rfl⟩ := Prod.mk.inj heq
    rcases hrefused with hname | hinfinite | hfar
    · exact hempty.mp hname hdist
    · rw [hfinite] at hinfinite
      cases hinfinite
    · exact (hradius hfinite hdist).mpr hle hfar
  · rw [if_neg hrefused]
    obtain ⟨hname, hrest⟩ := not_or.mp hrefused
    obtain ⟨hfinite, hnear⟩ := not_or.mp hrest
    have hfinite : policy.snapRadius.isFinite = true := by simpa using hfinite
    have hdist : dist < .posInf := not_not.mp (mt hempty.mpr hname)
    have hle := (hradius hfinite hdist).mp hnear
    by_cases hclass : classMismatch policy name detection.color = true
    · rw [if_pos hclass]
      refine ⟨.inl ⟨rfl, rfl⟩, fun d => iff_of_false (fun h => by cases h) ?_⟩
      rintro ⟨-, ⟨dist', hd, -⟩, hagrees⟩
      obtain ⟨rfl, -⟩ := Prod.mk.inj ((hnearest _ _).mp hd).1
      rw [classMismatch_eq_false.mpr hagrees] at hclass
      cases hclass
    · rw [if_neg hclass]
      refine ⟨.inr ⟨name, rfl, rfl⟩, fun d => ?_⟩
      have hagrees := classMismatch_eq_false.mp (Bool.not_eq_true _ ▸ hclass)
      constructor
      · intro hd
        obtain rfl : name = d := Option.some.inj hd
        exact ⟨hfinite, ⟨dist, (hnearest _ _).mpr ⟨rfl, hdist⟩, hle⟩, hagrees⟩
      · rintro ⟨-, ⟨dist', hd, -⟩, -⟩
        obtain ⟨rfl, -⟩ := Prod.mk.inj ((hnearest _ _).mp hd).1
        rfl

/-! ### The resolver -/

/-- The resolver does not raise, and it names a location exactly where the detection is located and
the error passes the ceiling. -/
lemma resolveOne_exact (policy : VisualPolicy α) (cal : Calibration α) (detection : Detection α) :
    ∃ target, resolveOne (FloatFormat.exact α) L policy cal detection = .ok target ∧
      (target.resolution = .unresolved ∧ target.destination = none ∨
        ∃ d, target.resolution = .knownLocation ∧ target.destination = some d) ∧
      ∀ d, target.destination = some d ↔
        Located L policy cal detection d ∧ PassesCeiling policy cal := by
  unfold resolveOne
  cases hdefect : calibrationDefect (FloatFormat.exact α) policy cal with
  | some reason =>
    refine ⟨_, rfl, .inl ⟨rfl, rfl⟩, fun d => iff_of_false (fun h => by cases h) ?_⟩
    rintro ⟨⟨x, y, hlocated⟩, hceiling⟩
    rw [calibrationDefect_eq_none.mpr ⟨hlocated.regular, hceiling⟩] at hdefect
    cases hdefect
  | none =>
    obtain ⟨hregular, hceiling⟩ := calibrationDefect_eq_none.mp hdefect
    obtain ⟨point, hpoint⟩ := exists_mapPoint cal detection.pixel
    dsimp only
    rw [hpoint]
    cases point with
    | error reason =>
      refine ⟨_, rfl, .inl ⟨rfl, rfl⟩, fun d => iff_of_false (fun h => by cases h) ?_⟩
      rintro ⟨⟨x, y, hlocated⟩, -⟩
      rw [(mapPoint_iff hregular).mpr hlocated.maps] at hpoint
      cases Except.ok.inj hpoint
    | ok point =>
      obtain ⟨x, y⟩ := point
      have hmaps := (mapPoint_iff hregular).mp hpoint
      have honly : ∀ x' y', MapsPixel cal detection.pixel x' y' → x' = x ∧ y' = y := by
        intro x' y' h
        rw [(mapPoint_iff hregular).mpr h] at hpoint
        exact Prod.mk.inj (Except.ok.inj (Except.ok.inj hpoint))
      obtain ⟨inside, hinside, hiff⟩ := pointInPolygon_exact x y cal.validPolygon
      show ∃ target, (pointInPolygon (FloatFormat.exact α) x y cal.validPolygon).map _ = _ ∧ _
      rw [hinside]
      cases inside with
      | false =>
        refine ⟨_, rfl, .inl ⟨rfl, rfl⟩, fun d => iff_of_false (fun h => by cases h) ?_⟩
        rintro ⟨⟨x', y', hlocated⟩, -⟩
        obtain ⟨rfl, rfl⟩ := honly x' y' hlocated.maps
        cases hiff.mpr hlocated.inside
      | true =>
        obtain ⟨hkind, hsnap⟩ := snap_exact L policy detection x y
        refine ⟨_, rfl, hkind, fun d => (hsnap d).trans ?_⟩
        constructor
        · rintro ⟨hfinite, hnearest, hagrees⟩
          exact ⟨⟨x, y, hregular, hmaps, hiff.mp rfl, hfinite, hnearest, hagrees⟩, hceiling⟩
        · rintro ⟨⟨x', y', hlocated⟩, -⟩
          obtain ⟨rfl, rfl⟩ := honly x' y' hlocated.maps
          exact ⟨hlocated.finite_radius, hlocated.nearest, hlocated.agrees⟩

/-- A target is justified: it names a location that the detection has been located at within the
ceiling, or it is unresolved and names none. -/
def Justified (policy : VisualPolicy α) (cal : Calibration α) (detection : Detection α)
    (target : ResolvedTarget α) : Prop :=
  (∃ d, target.resolution = .knownLocation ∧ target.destination = some d ∧
    Located L policy cal detection d ∧ WithinCeiling policy cal) ∨
  (target.resolution = .unresolved ∧ target.destination = none)

/-- A finite error is declared, and compared with a ceiling that is not a number. -/
def CeilingVoid (policy : VisualPolicy α) (cal : Calibration α) : Prop :=
  policy.maxReprojectionError = .nan ∧ ∃ e : α, cal.reprojectionError = some (.fin e)

omit [Field α] [IsStrictOrderedRing α] in
/-- What passes the ceiling is within it, unless there is nothing to be within. -/
lemma withinCeiling_iff {policy : VisualPolicy α} {cal : Calibration α}
    (hpasses : PassesCeiling policy cal) :
    WithinCeiling policy cal ↔ ¬ CeilingVoid policy cal := by
  constructor
  · rintro hwithin ⟨hnan, e, he⟩
    have hle := (hwithin _ he).2
    exact (PyFloat.ne_nan_of_le hle).2 hnan
  · intro hvoid e he
    obtain ⟨hfinite, hnot⟩ := hpasses e he
    obtain ⟨r, rfl⟩ := PyFloat.isFinite_iff.mp hfinite
    refine ⟨hfinite, PyFloat.le_of_not_lt ?_ ?_ hnot⟩
    · intro h
      cases h
    · intro hnan
      exact hvoid ⟨hnan, r, he⟩

omit [Field α] [IsStrictOrderedRing α] in
/-- A void ceiling lets the declared error pass. -/
lemma passesCeiling_of_void {policy : VisualPolicy α} {cal : Calibration α}
    (hvoid : CeilingVoid policy cal) : PassesCeiling policy cal := by
  obtain ⟨hnan, e, he⟩ := hvoid
  intro e' he'
  obtain rfl : .fin e = e' := Option.some.inj (he.symm.trans he')
  rw [hnan]
  exact ⟨rfl, PyFloat.not_nan_lt⟩

/-- The target of a detection is justified unless the ceiling is void and the detection passes all
the other gates. -/
lemma justified_iff {policy : VisualPolicy α} {cal : Calibration α} {detection : Detection α}
    {target : ResolvedTarget α}
    (hresolve : resolveOne (FloatFormat.exact α) L policy cal detection = .ok target) :
    Justified L policy cal detection target ↔
      ¬ (CeilingVoid policy cal ∧ ∃ d, Located L policy cal detection d) := by
  obtain ⟨target', hresolve', hkind, hdestination⟩ := resolveOne_exact L policy cal detection
  obtain rfl : target = target' := Except.ok.inj (hresolve.symm.trans hresolve')
  constructor
  · rintro (⟨d, -, hd, -, hwithin⟩ | ⟨-, hnone⟩) ⟨hvoid, d', hlocated⟩
    · exact (withinCeiling_iff ((hdestination d).mp hd).2).mp hwithin hvoid
    · have hsome := (hdestination d').mpr ⟨hlocated, passesCeiling_of_void hvoid⟩
      rw [hnone] at hsome
      cases hsome
  · intro hsound
    rcases hkind with hunresolved | ⟨d, hknown, hd⟩
    · exact .inr hunresolved
    · obtain ⟨hlocated, hpasses⟩ := (hdestination d).mp hd
      have hvoid : ¬ CeilingVoid policy cal := fun h => hsound ⟨h, d, hlocated⟩
      exact .inl ⟨d, hknown, hd, hlocated, (withinCeiling_iff hpasses).mpr hvoid⟩

/-- The resolver is sound: it returns a target for every detection, in order, and every target is
justified, exactly unless the ceiling is void and some detection passes all the other gates. -/
theorem visual_resolution_sound (policy : VisualPolicy α) (cal : Calibration α)
    (plan : RoboticsPlanDraft α) :
    (∃ targets, resolve (FloatFormat.exact α) L policy cal plan.detections = .ok targets ∧
      List.Forall₂ (Justified L policy cal) plan.detections targets) ↔
    ¬ (CeilingVoid policy cal ∧
      ∃ detection ∈ plan.detections, ∃ d, Located L policy cal detection d) := by
  constructor
  · rintro ⟨targets, hresolve, hjustified⟩ ⟨hvoid, detection, hdetection, hlocated⟩
    have hpairs := forall₂_of_resolve hresolve
    obtain ⟨i, hi, rfl⟩ := List.getElem_of_mem hdetection
    have hlength : i < targets.length := hpairs.length_eq ▸ hi
    exact (justified_iff L (hpairs.get hi hlength)).mp (hjustified.get hi hlength) ⟨hvoid, hlocated⟩
  · intro hsound
    have hreturns : ∃ targets,
        resolve (FloatFormat.exact α) L policy cal plan.detections = .ok targets := by
      refine exists_mapM_eq_ok.mpr fun detection _ => ?_
      obtain ⟨target, htarget, -⟩ := resolveOne_exact L policy cal detection
      exact ⟨target, htarget⟩
    obtain ⟨targets, hresolve⟩ := hreturns
    have hpairs := forall₂_of_resolve hresolve
    refine ⟨targets, hresolve, List.forall₂_iff_get.mpr ⟨hpairs.length_eq, ?_⟩⟩
    intro i hi hlength
    refine (justified_iff L (hpairs.get hi hlength)).mpr ?_
    rintro ⟨hvoid, hlocated⟩
    exact hsound ⟨hvoid, plan.detections.get ⟨i, hi⟩, List.get_mem _ _, hlocated⟩

/-- A policy whose ceiling is not a number. -/
def voidPolicy : VisualPolicy ℚ where
  locationCoords := Dict.empty.set "shelf_1" (.fin 0, .fin 0)
  snapRadius := .fin 1
  maxReprojectionError := .nan
  composeConfidence c _ := c

/-- The pixels of a square around the origin are its points, with an error of five metres. -/
def inaccurateCalibration : Calibration ℚ where
  homography := [[.fin 1, .fin 0, .fin 0], [.fin 0, .fin 1, .fin 0], [.fin 0, .fin 0, .fin 1]]
  reprojectionError := some (.fin 5)
  validPolygon := [[.fin (-1), .fin (-1)], [.fin 1, .fin (-1)], [.fin 1, .fin 1],
    [.fin (-1), .fin 1]]

/-- Under a ceiling that is a number the same plan is resolved soundly. -/
theorem visual_resolution_sound_ten_metres :
    ∃ targets, resolve (FloatFormat.exact ℚ) MathLib.rational
        { voidPolicy with maxReprojectionError := .fin 10 } inaccurateCalibration
        [({ id := "det", pixel := [0, 0] } : Detection ℚ)] = .ok targets ∧
      List.Forall₂ (Justified MathLib.rational { voidPolicy with maxReprojectionError := .fin 10 }
        inaccurateCalibration) [({ id := "det", pixel := [0, 0] } : Detection ℚ)] targets := by
  refine (visual_resolution_sound MathLib.rational _ _
    { planId := "plan_1", detections := [{ id := "det", pixel := [0, 0] }] }).mpr ?_
  rintro ⟨⟨hnan, -⟩, -⟩
  cases hnan

/-- The detection at the origin is resolved to the shelf there. -/
theorem visual_resolution_void_ceiling :
    ¬ ∃ targets, resolve (FloatFormat.exact ℚ) MathLib.rational voidPolicy inaccurateCalibration
        [({ id := "det", pixel := [0, 0] } : Detection ℚ)] = .ok targets ∧
      List.Forall₂ (Justified MathLib.rational voidPolicy inaccurateCalibration)
        [({ id := "det", pixel := [0, 0] } : Detection ℚ)] targets := by
  rintro ⟨targets, hresolve, hjustified⟩
  have hresolved : (resolve (FloatFormat.exact ℚ) MathLib.rational voidPolicy inaccurateCalibration
      [({ id := "det", pixel := [0, 0] } : Detection ℚ)]).map (List.map (·.destination)) =
        .ok [some "shelf_1"] := by
    decide +kernel
  rw [hresolve] at hresolved
  have hdestinations : targets.map (·.destination) = [some "shelf_1"] := Except.ok.inj hresolved
  obtain ⟨target, rest, hhead, -, rfl⟩ := List.forall₂_cons_left_iff.mp hjustified
  have hdestination : target.destination = some "shelf_1" := (List.cons.inj hdestinations).1
  rcases hhead with ⟨d, -, -, -, hwithin⟩ | ⟨-, hnone⟩
  · exact (PyFloat.ne_nan_of_le (hwithin _ rfl).2).2 rfl
  · rw [hnone] at hdestination
    cases hdestination

end Gates

end VisualResolver

end MiniatureWarehouse
