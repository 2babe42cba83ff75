import MiniatureWarehouse.Framework.Values
import MiniatureWarehouse.Perception.Terrain

/-!
# The ground fit

The ground under the robot is a plane.  The mounting of the camera predicts it to be `Z = 0`, and
random triples of points compete with that prediction: a candidate takes over when it has strictly
more inliers, or as many with a smaller mean residual.  To compete is a privilege of the planes
inside a cone around the prior, for a tilted plane through the near floor and a lower surface
scores better than the ground does.

The random numbers are a parameter: a run of the fit is given by the triples it draws.
-/

namespace MiniatureWarehouse

namespace Perception

variable {α : Type*} [Field α] [LinearOrder α] [IsStrictOrderedRing α]

/-- The mathematical library with the angle functions.  An angle is finite unless an argument is
`NaN`, and the norm of two numbers is not `NaN`. -/
structure AngleMath (α : Type*) [Field α] [LinearOrder α] [IsStrictOrderedRing α] extends
    MathLib α where
  atan : PyFloat α → PyFloat α
  hypot_zero : hypot (.fin 0) (.fin 0) = .fin 0
  hypot_ne_nan : ∀ {a b}, a ≠ .nan → b ≠ .nan → hypot a b ≠ .nan
  atan_zero : atan (.fin 0) = .fin 0
  atan_nonneg : ∀ {a}, ¬ a < .fin 0 → ¬ atan a < .fin 0
  atan_isFinite : ∀ {a}, a ≠ .nan → (atan a).isFinite = true

/-- A rational library to evaluate the fit with, exact at the angle zero and first-order around
it. -/
def AngleMath.rational : AngleMath ℚ where
  hypot := MathLib.rational.hypot
  sin := MathLib.rational.sin
  cos := MathLib.rational.cos
  atan2 := MathLib.rational.atan2
  hypot_nonneg := MathLib.rational.hypot_nonneg
  atan
    | .fin x => .fin x
    | .nan => .nan
    | .posInf => .fin 2
    | .negInf => .fin (-2)
  hypot_zero := by decide +kernel
  hypot_ne_nan {a b} ha hb := by
    cases a <;> cases b <;> simp_all [MathLib.rational]
  atan_zero := rfl
  atan_nonneg {a} ha := by
    cases a with
    | fin x => exact ha
    | nan => exact PyFloat.not_nan_lt
    | posInf => exact not_lt.mpr (by norm_num : (0 : ℚ) ≤ 2)
    | negInf => exact absurd trivial ha
  atan_isFinite {a} ha := by
    cases a <;> first | rfl | exact absurd rfl ha

/-- `GroundFitParams` with the two bounds of the cone. -/
structure ConeParams (α : Type*) [Field α] [LinearOrder α] extends GroundFitParams α where
  maxPlaneTiltRad : α
  maxPlaneOffsetM : α
  tilt_pos : 0 < maxPlaneTiltRad
  offset_pos : 0 < maxPlaneOffsetM

/-- A plane `Z = aX + bY + c`. -/
structure Plane (α : Type*) where
  a : PyFloat α
  b : PyFloat α
  c : PyFloat α
  deriving DecidableEq, Repr

/-- A draw of `random.sample(range(n), 3)`.  There is none of fewer than three points. -/
structure Draw (n : ℕ) where
  i₀ : Fin n
  i₁ : Fin n
  i₂ : Fin n
  ne₀₁ : i₀ ≠ i₁
  ne₀₂ : i₀ ≠ i₂
  ne₁₂ : i₁ ≠ i₂

/-- The score of a plane: its inliers, and their mean residual. -/
structure Score (α : Type*) where
  count : ℕ
  mean : PyFloat α

/-- The variables of the loop of `ground_estimator`. -/
structure FitState (α : Type*) where
  best : Plane α
  bestScore : Score α
  usedPrior : Bool
  rejectedCandidates : ℕ

section Fit

variable (F : FloatFormat α)

/-- `_DEGENERATE_DET`. -/
def degenerateDet : PyFloat α := F.round (1 / 10 ^ 12)

/-- `u1 * v2 - u2 * v1`. -/
def cross (u₁ u₂ v₁ v₂ : PyFloat α) : PyFloat α := F.sub (F.mul u₁ v₂) (F.mul u₂ v₁)

/-- `u0 * (v1 - v2) - v0 * (u1 - u2) + (u1 * v2 - u2 * v1)`. -/
def unitDet (u₀ u₁ u₂ v₀ v₁ v₂ : PyFloat α) : PyFloat α :=
  F.add (F.sub (F.mul u₀ (F.sub v₁ v₂)) (F.mul v₀ (F.sub u₁ u₂))) (cross F u₁ u₂ v₁ v₂)

/-- `_plane_from_triple`. -/
def planeFromTriple (p₀ p₁ p₂ : Point3 (PyFloat α)) : Except PyErr (Option (Plane α)) :=
  let det := unitDet F p₀.x p₁.x p₂.x p₀.y p₁.y p₂.y
  if det.abs < degenerateDet F then .ok none
  else do
    let a ← pyDiv F (unitDet F p₀.z p₁.z p₂.z p₀.y p₁.y p₂.y) det
    let b ← pyDiv F (unitDet F p₀.x p₁.x p₂.x p₀.z p₁.z p₂.z) det
    let c ← pyDiv F (F.add (F.sub (F.mul p₀.x (cross F p₁.y p₂.y p₁.z p₂.z))
      (F.mul p₀.y (cross F p₁.x p₂.x p₁.z p₂.z))) (F.mul p₀.z (cross F p₁.x p₂.x p₁.y p₂.y))) det
    pure (some ⟨a, b, c⟩)

/-- `abs(z - (a * x + b * y + c))`. -/
def Plane.distance (plane : Plane α) (p : Point3 (PyFloat α)) : PyFloat α :=
  (F.sub p.z (F.add (F.add (F.mul plane.a p.x) (F.mul plane.b p.y)) plane.c)).abs

/-- The body of the loop of `_score`: the inliers so far and the sum of their residuals. -/
def scorePoint (tolerance : α) (plane : Plane α) (sums : ℕ × PyFloat α)
    (p : Point3 (PyFloat α)) : ℕ × PyFloat α :=
  let residual := plane.distance F p
  if residual ≤ .fin tolerance then (sums.1 + 1, F.add sums.2 residual) else sums

/-- `_score`. -/
def score (tolerance : α) (plane : Plane α) (points : List (Point3 (PyFloat α))) :
    Except PyErr (Score α) :=
  let sums := points.foldl (scorePoint F tolerance plane) (0, .fin 0)
  if sums.1 = 0 then .ok ⟨0, .posInf⟩
  else do
    let n ← (PyVal.int sums.1 : PyVal α).toFloat F
    let mean ← pyDiv F sums.2 n
    pure ⟨sums.1, mean⟩

/-- The comparison of two scores: more inliers, or as many with a smaller mean. -/
def Score.Beats (new old : Score α) : Prop :=
  old.count < new.count ∨ new.count = old.count ∧ new.mean < old.mean

instance (new old : Score α) : Decidable (new.Beats old) := inferInstanceAs (Decidable (_ ∨ _))

variable (M : AngleMath α) (params : ConeParams α)

/-- `_within_prior_cone`. -/
def withinPriorCone (plane : Plane α) : Bool :=
  if !(plane.a.isFinite && plane.b.isFinite && plane.c.isFinite) then false
  else if .fin params.maxPlaneTiltRad < M.atan (M.hypot plane.a plane.b) then false
  else decide (plane.c.abs ≤ .fin params.maxPlaneOffsetM)

/-- The prior, `Z = 0`. -/
def Plane.prior : Plane α := ⟨.fin 0, .fin 0, .fin 0⟩

variable (points : List (Point3 (PyFloat α)))

/-- The plane through the points of a draw. -/
def candidateOf (draw : Draw points.length) : Except PyErr (Option (Plane α)) :=
  planeFromTriple F points[draw.i₀] points[draw.i₁] points[draw.i₂]

/-- The body of the loop of `ground_estimator`.  A plane outside the cone is not even scored. -/
def considerDraw (s : FitState α) (draw : Draw points.length) : Except PyErr (FitState α) :=
  (candidateOf F points draw).bind fun
    | none => .ok s
    | some candidate =>
      if withinPriorCone M params candidate = false then
        .ok { s with rejectedCandidates := s.rejectedCandidates + 1 }
      else (score F params.planeToleranceM candidate points).map fun new =>
        if new.Beats s.bestScore then
          { s with best := candidate, bestScore := new, usedPrior := false }
        else s

/-- The loop of `ground_estimator` over the triples that are drawn. -/
def fitDraws (draws : List (Draw points.length)) : Except PyErr (FitState α) :=
  (score F params.planeToleranceM .prior points).bind fun first =>
    draws.foldlM (considerDraw F M params points) ⟨.prior, first, true, 0⟩

/-- The ground plane that the variables of the loop are returned as. -/
def FitState.ground (pointCount : ℕ) (s : FitState α) : GroundPlane (PyFloat α) where
  a := s.best.a
  b := s.best.b
  c := s.best.c
  inlierCount := s.bestScore.count
  pointCount := pointCount
  usedPrior := s.usedPrior
  rejectedCandidates := s.rejectedCandidates

/-- `ground_estimator`. -/
def groundEstimator (draws : List (Draw points.length)) :
    Except PyErr (GroundPlane (PyFloat α)) :=
  (fitDraws F M params points draws).map (FitState.ground points.length)

end Fit

/-! ## The candidates and their scores -/

section Scores

variable (F : FloatFormat α) (tolerance : α) (plane : Plane α)
  (points : List (Point3 (PyFloat α)))

/-- The number of points within tolerance of a plane. -/
def inliers : ℕ := points.countP fun p => plane.distance F p ≤ .fin tolerance

/-- The mean distance of the points within tolerance of a plane. -/
def meanResidual : PyFloat α :=
  if inliers F tolerance plane points = 0 then .posInf
  else F.div (((points.map (plane.distance F)).filter (· ≤ .fin tolerance)).foldl F.add (.fin 0))
    (F.round (inliers F tolerance plane points))

/-- A plane improves on another: it has more points within tolerance, or as many at a smaller mean
distance. -/
def Improves (new old : Plane α) : Prop :=
  inliers F tolerance old points < inliers F tolerance new points ∨
    inliers F tolerance new points = inliers F tolerance old points ∧
      meanResidual F tolerance new points < meanResidual F tolerance old points

/-- What the fit relies on of the numbers: one is a float, the bound on the determinants does not
vanish, and the number of points converts to a float. -/
structure FitNumbers (n : ℕ) : Prop where
  round_one : F.round 1 = .fin 1
  det_pos : .fin 0 < degenerateDet F
  length_finite : (F.round n).isFinite = true

variable {F tolerance plane points}

lemma FitNumbers.round_count {n k : ℕ} (h : FitNumbers F n) (hpos : 1 ≤ k) (hle : k ≤ n) :
    ∃ x, F.round k = .fin x ∧ 0 < x := by
  have hone : (1 : α) ≤ k := by exact_mod_cast hpos
  have hn : (k : α) ≤ n := by exact_mod_cast hle
  have hlow : .fin 1 ≤ F.round (k : α) := h.round_one ▸ F.round_mono hone
  have hhigh : F.round (k : α) ≤ F.round n := F.round_mono hn
  obtain ⟨y, hy⟩ := PyFloat.isFinite_iff.mp h.length_finite
  rw [hy] at hhigh
  cases hround : F.round (k : α) with
  | fin x =>
    rw [hround] at hlow
    have hx : 1 ≤ x := PyFloat.fin_le_fin.mp hlow
    exact ⟨x, rfl, one_pos.trans_le hx⟩
  | nan => exact absurd hround (F.round_ne_nan _)
  | posInf =>
    rw [hround] at hhigh
    exact absurd hhigh PyFloat.not_posInf_le_fin
  | negInf =>
    rw [hround] at hlow
    exact absurd hlow PyFloat.not_fin_le_negInf

lemma FitNumbers.mono {n k : ℕ} (h : FitNumbers F n) (hle : k ≤ n) : FitNumbers F k where
  round_one := h.round_one
  det_pos := h.det_pos
  length_finite := by
    rcases Nat.eq_zero_or_pos k with rfl | hpos
    · rw [Nat.cast_zero, F.round_zero]
      rfl
    · obtain ⟨x, hx, -⟩ := h.round_count hpos hle
      rw [hx]
      rfl

lemma foldl_scorePoint (count : ℕ) (total : PyFloat α) :
    points.foldl (scorePoint F tolerance plane) (count, total) =
      (count + inliers F tolerance plane points,
        ((points.map (plane.distance F)).filter (· ≤ .fin tolerance)).foldl F.add total) := by
  induction points generalizing count total with
  | nil => rfl
  | cons p points ih =>
    rw [List.foldl_cons, scorePoint, inliers, List.countP_cons, List.map_cons]
    by_cases hnear : plane.distance F p ≤ .fin tolerance
    · rw [if_pos hnear, ih, List.filter_cons_of_pos (by simpa using hnear), List.foldl_cons]
      simp only [inliers, hnear, decide_true, if_true]
      rw [Nat.add_right_comm, Nat.add_assoc]
    · rw [if_neg hnear, ih, List.filter_cons_of_neg (by simpa using hnear)]
      simp [inliers, hnear]

/-- The score of a plane is what it is meant to be. -/
lemma score_eq (h : FitNumbers F points.length) :
    score F tolerance plane points =
      .ok ⟨inliers F tolerance plane points, meanResidual F tolerance plane points⟩ := by
  unfold score meanResidual
  rw [foldl_scorePoint, Nat.zero_add]
  by_cases hzero : inliers F tolerance plane points = 0
  · simp [hzero]
  · have hle : inliers F tolerance plane points ≤ points.length := List.countP_le_length
    obtain ⟨x, hx, hpos⟩ := h.round_count (Nat.one_le_iff_ne_zero.mpr hzero) hle
    have hne : (.fin x : PyFloat α) ≠ .fin 0 := fun heq => hpos.ne' (PyFloat.fin.inj heq)
    have hfloat : (PyVal.int (inliers F tolerance plane points) : PyVal α).toFloat F =
        .ok (.fin x) := by
      rw [PyVal.toFloat, Int.cast_natCast, hx]
      rfl
    simp only [hzero, if_false, hfloat, hx]
    change (pyDiv F _ (.fin x)).bind _ = _
    rw [pyDiv_of_ne hne]
    rfl

/-- A determinant past the guard is a divisor. -/
lemma ne_zero_of_not_degenerate {det : PyFloat α} (hpos : .fin 0 < degenerateDet F)
    (h : ¬ det.abs < degenerateDet F) : det ≠ .fin 0 := by
  rintro rfl
  refine h ?_
  have habs : (PyFloat.fin 0 : PyFloat α).abs = .fin 0 := by
    rw [PyFloat.abs, abs_zero]
  rwa [habs]

lemma exists_candidateOf (hpos : .fin 0 < degenerateDet F) (draw : Draw points.length) :
    ∃ candidate, candidateOf F points draw = .ok candidate := by
  unfold candidateOf planeFromTriple
  dsimp only
  split_ifs with hdegenerate
  · exact ⟨none, rfl⟩
  · have hdet := ne_zero_of_not_degenerate hpos hdegenerate
    simp only [pyDiv_of_ne hdet]
    exact ⟨_, rfl⟩

end Scores

/-! ## The cone -/

section Cone

variable {M : AngleMath α} {params : ConeParams α}

/-- The prior is always inside the cone. -/
lemma withinPriorCone_prior : withinPriorCone M params .prior = true := by
  have htilt : ¬ (.fin params.maxPlaneTiltRad : PyFloat α) < .fin 0 :=
    not_lt.mpr params.tilt_pos.le
  unfold withinPriorCone Plane.prior
  simp only [M.hypot_zero, M.atan_zero, htilt, PyFloat.isFinite_fin, Bool.and_self, Bool.not_true,
    Bool.false_eq_true, if_false, PyFloat.abs, abs_zero, PyFloat.fin_le_fin, decide_eq_true_eq]
  exact params.offset_pos.le

lemma cone_of_withinPriorCone {plane : Plane α} (h : withinPriorCone M params plane = true) :
    (plane.a.isFinite = true ∧ plane.b.isFinite = true ∧ plane.c.isFinite = true) ∧
      M.atan (M.hypot plane.a plane.b) ≤ .fin params.maxPlaneTiltRad ∧
      plane.c.abs ≤ .fin params.maxPlaneOffsetM := by
  unfold withinPriorCone at h
  split_ifs at h with hfinite htilt
  have hall : (plane.a.isFinite = true ∧ plane.b.isFinite = true) ∧ plane.c.isFinite = true := by
    simpa using hfinite
  obtain ⟨⟨ha, hb⟩, hc⟩ := hall
  refine ⟨⟨ha, hb, hc⟩, ?_, of_decide_eq_true h⟩
  have hangle : M.atan (M.hypot plane.a plane.b) ≠ .nan :=
    PyFloat.ne_nan_of_isFinite (M.atan_isFinite (M.hypot_ne_nan
      (PyFloat.ne_nan_of_isFinite ha) (PyFloat.ne_nan_of_isFinite hb)))
  exact PyFloat.le_of_not_lt hangle (fun heq => by cases heq) htilt

end Cone

/-! ## The search -/

section Search

variable {F : FloatFormat α} {M : AngleMath α} {params : ConeParams α}
  {points : List (Point3 (PyFloat α))}

/-- The draw gives a plane outside the cone. -/
def rejects (F : FloatFormat α) (M : AngleMath α) (params : ConeParams α)
    (points : List (Point3 (PyFloat α))) (draw : Draw points.length) : Bool :=
  match candidateOf F points draw with
  | .ok (some candidate) => !withinPriorCone M params candidate
  | _ => false

/-- The draw gives a plane inside the cone that improves on the incumbent. -/
def Replaces (F : FloatFormat α) (M : AngleMath α) (params : ConeParams α)
    (points : List (Point3 (PyFloat α))) (incumbent : Plane α) (draw : Draw points.length) :
    Prop :=
  ∃ candidate, candidateOf F points draw = .ok (some candidate) ∧
    withinPriorCone M params candidate = true ∧
    Improves F params.planeToleranceM points candidate incumbent

/-- What one draw does to the incumbent. -/
inductive Considered (F : FloatFormat α) (M : AngleMath α) (params : ConeParams α)
    (points : List (Point3 (PyFloat α))) (s : FitState α) (draw : Draw points.length) :
    FitState α → Prop
  | kept (hrejects : rejects F M params points draw = false)
      (hkept : ¬ Replaces F M params points s.best draw) : Considered F M params points s draw s
  | rejected (hrejects : rejects F M params points draw = true)
      (hkept : ¬ Replaces F M params points s.best draw) :
      Considered F M params points s draw
        { s with rejectedCandidates := s.rejectedCandidates + 1 }
  | replaced (candidate : Plane α) (hrejects : rejects F M params points draw = false)
      (hreplaces : Replaces F M params points s.best draw)
      (hcone : withinPriorCone M params candidate = true)
      (hmore : inliers F params.planeToleranceM s.best points ≤
        inliers F params.planeToleranceM candidate points) :
      Considered F M params points s draw
        { s with
          best := candidate
          bestScore := ⟨inliers F params.planeToleranceM candidate points,
            meanResidual F params.planeToleranceM candidate points⟩
          usedPrior := false }

/-- The coefficients of a ground plane. -/
def groundCoefficients (ground : GroundPlane (PyFloat α)) : Plane α :=
  ⟨ground.a, ground.b, ground.c⟩

/-- The score in the state is that of the incumbent. -/
def Scored (F : FloatFormat α) (params : ConeParams α) (points : List (Point3 (PyFloat α)))
    (s : FitState α) : Prop :=
  s.bestScore = ⟨inliers F params.planeToleranceM s.best points,
    meanResidual F params.planeToleranceM s.best points⟩

lemma considerDraw_considered (hF : FitNumbers F points.length) {s : FitState α}
    (hs : Scored F params points s) (draw : Draw points.length) :
    ∃ s', considerDraw F M params points s draw = .ok s' ∧
      Considered F M params points s draw s' := by
  obtain ⟨candidate, hcandidate⟩ := exists_candidateOf hF.det_pos draw
  unfold considerDraw
  rw [hcandidate]
  cases candidate with
  | none =>
    refine ⟨s, rfl, .kept (by rw [rejects, hcandidate]) ?_⟩
    rintro ⟨candidate, h, -⟩
    rw [hcandidate] at h
    cases h
  | some candidate =>
    have huniq : Replaces F M params points s.best draw ↔
        withinPriorCone M params candidate = true ∧
          Improves F params.planeToleranceM points candidate s.best := by
      constructor
      · rintro ⟨other, hother, h⟩
        rw [hcandidate] at hother
        cases hother
        exact h
      · exact fun h => ⟨candidate, hcandidate, h⟩
    dsimp only [Except.bind]
    by_cases hcone : withinPriorCone M params candidate = true
    · have hrejects : rejects F M params points draw = false := by
        simp [rejects, hcandidate, hcone]
      rw [if_neg (by simp [hcone]), score_eq hF]
      by_cases hbeats : Improves F params.planeToleranceM points candidate s.best
      · have hmore : inliers F params.planeToleranceM s.best points ≤
            inliers F params.planeToleranceM candidate points := by
          rcases hbeats with h | ⟨h, -⟩
          · exact h.le
          · exact h.ge
        refine ⟨_, congrArg Except.ok (if_pos ?_), .replaced candidate hrejects
          (huniq.mpr ⟨hcone, hbeats⟩) hcone hmore⟩
        rw [hs]
        exact hbeats
      · refine ⟨_, congrArg Except.ok (if_neg ?_), .kept hrejects fun h => hbeats (huniq.mp h).2⟩
        rw [hs]
        exact hbeats
    · have hrejects : rejects F M params points draw = true := by
        simp [rejects, hcandidate, hcone]
      rw [if_pos (by simpa using hcone)]
      exact ⟨_, rfl, .rejected hrejects fun h => hcone (huniq.mp h).1⟩

/-- What the fit has established after the draws: the incumbent is inside the cone, scored, and no
worse supported than the prior, and the two counters tell what happened. -/
structure Fitted (F : FloatFormat α) (M : AngleMath α) (params : ConeParams α)
    (points : List (Point3 (PyFloat α))) (draws : List (Draw points.length))
    (s : FitState α) : Prop where
  cone : withinPriorCone M params s.best = true
  scored : Scored F params points s
  prior_le : inliers F params.planeToleranceM .prior points ≤
    inliers F params.planeToleranceM s.best points
  usedPrior_iff : s.usedPrior = true ↔ ∀ before draw after, draws = before ++ draw :: after →
    ∀ incumbent, fitDraws F M params points before = .ok incumbent →
      ¬ Replaces F M params points incumbent.best draw
  rejected_eq : s.rejectedCandidates = draws.countP (rejects F M params points)

/-- A statement about every element of a list and what comes before it, for one more element. -/
lemma forall_split_concat {β : Type*} {P : List β → β → Prop} {xs : List β} {x : β} :
    (∀ before y after, xs ++ [x] = before ++ y :: after → P before y) ↔
      (∀ before y after, xs = before ++ y :: after → P before y) ∧ P xs x := by
  constructor
  · intro h
    refine ⟨fun before y after hxs => h before y (after ++ [x]) ?_, h xs x [] rfl⟩
    rw [hxs, List.append_assoc, List.cons_append]
  · rintro ⟨h, hx⟩ before y after heq
    rcases List.eq_nil_or_concat after with rfl | ⟨after, z, rfl⟩
    · obtain ⟨rfl, hlast⟩ := List.append_inj' heq rfl
      obtain rfl : x = y := List.singleton_inj.mp hlast
      exact hx
    · rw [List.concat_eq_append, ← List.cons_append, ← List.append_assoc] at heq
      exact h before y after (List.append_inj' heq rfl).1

lemma fitDraws_concat {draws : List (Draw points.length)} {draw : Draw points.length}
    {s : FitState α} (h : fitDraws F M params points draws = .ok s) :
    fitDraws F M params points (draws ++ [draw]) = considerDraw F M params points s draw := by
  obtain ⟨first, hfirst, hdraws⟩ := exceptBind_eq_ok.mp h
  unfold fitDraws
  rw [hfirst]
  dsimp only [Except.bind]
  rw [List.foldlM_append, hdraws]
  change List.foldlM (considerDraw F M params points) s [draw] = _
  rw [List.foldlM_cons]
  exact bind_pure _

/-- One more draw keeps what the fit has established. -/
lemma Fitted.concat {draws : List (Draw points.length)} {draw : Draw points.length}
    {s s' : FitState α} (hs : Fitted F M params points draws s)
    (hrun : fitDraws F M params points draws = .ok s)
    (hstep : Considered F M params points s draw s') :
    Fitted F M params points (draws ++ [draw]) s' := by
  have hsplit : (∀ before d after, draws ++ [draw] = before ++ d :: after →
      ∀ incumbent, fitDraws F M params points before = .ok incumbent →
        ¬ Replaces F M params points incumbent.best d) ↔
      s.usedPrior = true ∧ ¬ Replaces F M params points s.best draw := by
    rw [forall_split_concat, hs.usedPrior_iff, hrun]
    exact and_congr_right fun _ => ⟨fun h => h s rfl, fun h _ heq => Except.ok.inj heq ▸ h⟩
  have hcount : (draws ++ [draw]).countP (rejects F M params points) =
      s.rejectedCandidates + if rejects F M params points draw then 1 else 0 := by
    rw [List.countP_append, ← hs.rejected_eq, List.countP_singleton]
  cases hstep with
  | kept hrejects hkept =>
    refine ⟨hs.cone, hs.scored, hs.prior_le, ?_, ?_⟩
    · rw [hsplit, and_iff_left hkept]
    · rw [hcount, hrejects]
      rfl
  | rejected hrejects hkept =>
    refine ⟨hs.cone, hs.scored, hs.prior_le, ?_, ?_⟩
    · rw [hsplit, and_iff_left hkept]
    · rw [hcount, hrejects]
      rfl
  | replaced candidate hrejects hreplaces hcone hmore =>
    refine ⟨hcone, rfl, hs.prior_le.trans hmore, ?_, ?_⟩
    · rw [hsplit]
      exact iff_of_false Bool.false_ne_true fun h => h.2 hreplaces
    · rw [hcount, hrejects]
      rfl

/-- The fit never raises, and what it has established holds after every number of draws. -/
lemma exists_fitted (M : AngleMath α) (params : ConeParams α) (hF : FitNumbers F points.length)
    (draws : List (Draw points.length)) :
    ∃ s, fitDraws F M params points draws = .ok s ∧ Fitted F M params points draws s := by
  induction draws using List.reverseRecOn with
  | nil =>
    refine ⟨_, by rw [fitDraws, score_eq hF]; rfl, ?_⟩
    refine ⟨withinPriorCone_prior, rfl, le_rfl, iff_of_true rfl ?_, rfl⟩
    intro before draw after h
    simp at h
  | append_singleton draws draw ih =>
    obtain ⟨s, hrun, hs⟩ := ih
    obtain ⟨s', hstep, hconsidered⟩ := considerDraw_considered hF hs.scored draw
    exact ⟨s', (fitDraws_concat hrun).trans hstep, hs.concat hrun hconsidered⟩

/-- What `ground_estimator` returns is what the fit has established. -/
lemma exists_groundEstimator (M : AngleMath α) (params : ConeParams α)
    (hF : FitNumbers F points.length) (draws : List (Draw points.length)) :
    ∃ s, groundEstimator F M params points draws = .ok (s.ground points.length) ∧
      Fitted F M params points draws s := by
  obtain ⟨s, hrun, hs⟩ := exists_fitted M params hF draws
  exact ⟨s, exceptMap_eq_ok.mpr ⟨s, hrun, rfl⟩, hs⟩

/-- The incumbents of the fit are the planes that `ground_estimator` would have returned. -/
lemma forall_groundEstimator {draws : List (Draw points.length)} {P : Plane α → Prop} :
    (∀ incumbent, groundEstimator F M params points draws = .ok incumbent →
      P (groundCoefficients incumbent)) ↔
      ∀ s, fitDraws F M params points draws = .ok s → P s.best := by
  constructor
  · intro h s hs
    exact h (s.ground points.length) (exceptMap_eq_ok.mpr ⟨s, hs, rfl⟩)
  · intro h incumbent hincumbent
    obtain ⟨s, hs, rfl⟩ := exceptMap_eq_ok.mp hincumbent
    exact h s hs

/-- **The ground plane stays admissible.**  Whatever the points and the draws, the fit returns a
finite plane inside the cone, with its own inliers as its support and no fewer than the prior has;
the prior was used exactly when no draw gave a plane inside the cone that improved on the incumbent
of its time, and the refusals are the draws that gave a plane outside. -/
theorem ground_plane_admissible (M : AngleMath α) (params : ConeParams α)
    (draws : List (Draw points.length)) (hF : FitNumbers F points.length) :
    ∃ ground, groundEstimator F M params points draws = .ok ground ∧
      (ground.a.isFinite = true ∧ ground.b.isFinite = true ∧ ground.c.isFinite = true) ∧
      M.atan (M.hypot ground.a ground.b) ≤ .fin params.maxPlaneTiltRad ∧
      ground.c.abs ≤ .fin params.maxPlaneOffsetM ∧
      inliers F params.planeToleranceM .prior points ≤ ground.inlierCount ∧
      ground.inlierCount =
        inliers F params.planeToleranceM (groundCoefficients ground) points ∧
      (ground.usedPrior = true ↔ ∀ before draw after, draws = before ++ draw :: after →
        ∀ incumbent, groundEstimator F M params points before = .ok incumbent →
          ¬ Replaces F M params points (groundCoefficients incumbent) draw) ∧
      ground.rejectedCandidates = draws.countP (rejects F M params points) := by
  obtain ⟨s, hground, hs⟩ := exists_groundEstimator M params hF draws
  obtain ⟨hfinite, htilt, hoffset⟩ := cone_of_withinPriorCone hs.cone
  have hcount : s.bestScore.count = inliers F params.planeToleranceM s.best points := by
    rw [hs.scored]
  refine ⟨_, hground, hfinite, htilt, hoffset, hs.prior_le.trans_eq hcount.symm, hcount, ?_,
    hs.rejected_eq⟩
  refine hs.usedPrior_iff.trans (forall₄_congr fun before draw after hsplit => ?_)
  exact (forall_groundEstimator (P := fun plane => ¬ Replaces F M params points plane draw)).symm

end Search

/-! ## An example -/

/-- A floor a tenth above the prior, and a roof far above. -/
def floorAndRoof : List (Point3 (PyFloat ℚ)) :=
  [⟨.fin 1, .fin 0, .fin (1 / 10)⟩, ⟨.fin 2, .fin 0, .fin (1 / 10)⟩,
    ⟨.fin 1, .fin 1, .fin (1 / 10)⟩, ⟨.fin 1, .fin 0, .fin 5⟩, ⟨.fin 2, .fin 0, .fin 5⟩,
    ⟨.fin 1, .fin 1, .fin 5⟩]

/-- A band of a twentieth, and a cone of a tilt of a half and an offset of a half. -/
def narrowCone : ConeParams ℚ where
  planeToleranceM := 1 / 20
  tolerance_pos := by norm_num
  maxPlaneTiltRad := 1 / 2
  maxPlaneOffsetM := 1 / 2
  tilt_pos := rat_half_pos
  offset_pos := rat_half_pos

/-- The floor is drawn, and the roof. -/
def floorThenRoof : List (Draw floorAndRoof.length) :=
  [⟨⟨0, by decide⟩, ⟨1, by decide⟩, ⟨2, by decide⟩, by decide, by decide, by decide⟩,
    ⟨⟨3, by decide⟩, ⟨4, by decide⟩, ⟨5, by decide⟩, by decide, by decide, by decide⟩]

theorem ground_plane_admissible_floor :
    ∃ ground, groundEstimator (.exact ℚ) .rational narrowCone floorAndRoof floorThenRoof =
        .ok ground ∧
      ground.c.abs ≤ .fin (1 / 2) ∧
      ground.inlierCount =
        inliers (.exact ℚ) (1 / 20) (groundCoefficients ground) floorAndRoof ∧
      ground.rejectedCandidates =
        floorThenRoof.countP (rejects (.exact ℚ) .rational narrowCone floorAndRoof) := by
  obtain ⟨ground, hground, -, -, hoffset, -, hcount, -, hrejected⟩ :=
    ground_plane_admissible (F := .exact ℚ) .rational narrowCone floorThenRoof
      ⟨rfl, by decide +kernel, rfl⟩
  exact ⟨ground, hground, hoffset, hcount, hrejected⟩

end Perception

end MiniatureWarehouse
