import MiniatureWarehouse.Framework.Floats
import MiniatureWarehouse.Framework.Interpolation
import Mathlib.Analysis.SpecialFunctions.Trigonometric.Basic

/-!
# The phantom obstacle

Two robots that share an aisle do not see each other well, so each is shown the other as a wedge of
readings in a scan that nothing measured.  Ray `0` looks backwards, the rays go around once, and
the wedge is found by arithmetic on their numbers: the bearing is floored to a ray, and the rays
around it are counted modulo the full turn.

A bearing is a difference of two angles and need not be normalised.  `circleDistance` compares
directions modulo the turn, and `wedge_marks` says which rays the arithmetic reaches.
-/

namespace MiniatureWarehouse

namespace Traffic

/-! ## The readings -/

section Model

variable {α : Type*} [Field α] [LinearOrder α] [FloorRing α]

/-- The angle between two rays. -/
def increment (pi : α) (numRays : ℕ) : α := 2 * pi / numRays

/-- The direction of a ray. -/
def rayDirection (pi : α) (numRays j : ℕ) : α := -pi + j * increment pi numRays

/-- `range(-half_width, half_width + 1)`. -/
def wedgeOffsets (halfWidth : ℤ) : List ℤ :=
  (List.range (2 * halfWidth + 1).toNat).map fun k : ℕ => (k : ℤ) - halfWidth

/-- `build_ranges`. -/
def buildRanges (pi distance bearing robotRadius angularWidth : α) (numRays : ℕ) (rangeMin : α) :
    List (PyFloat α) :=
  let centerIdx := ⌊(bearing + pi) / increment pi numRays⌋ % (numRays : ℤ)
  let halfWidth := truncate (angularWidth / increment pi numRays)
  let nearEdge := max (distance - robotRadius) rangeMin
  (wedgeOffsets halfWidth).foldl
    (fun ranges i => ranges.set ((centerIdx + i) % (numRays : ℤ)).toNat (.fin nearEdge))
    (List.replicate numRays .posInf)

end Model

/-- The ray shows an obstacle. -/
def Marked {α : Type*} (ranges : List (PyFloat α)) (j : ℕ) : Prop := ∃ x, ranges[j]? = some (.fin x)

lemma mem_wedgeOffsets {halfWidth i : ℤ} :
    i ∈ wedgeOffsets halfWidth ↔ -halfWidth ≤ i ∧ i ≤ halfWidth := by
  unfold wedgeOffsets
  simp only [List.mem_map, List.mem_range]
  constructor
  · rintro ⟨k, hk, rfl⟩
    omega
  · rintro ⟨hlow, hhigh⟩
    refine ⟨(i + halfWidth).toNat, ?_, ?_⟩ <;> omega

/-- A loop that writes one value at some places of a list. -/
lemma getElem?_foldl_set {β γ : Type*} (place : γ → ℕ) (v : β) (is : List γ) (xs : List β)
    {j : ℕ} (hj : j < xs.length) :
    (is.foldl (fun xs i => xs.set (place i) v) xs)[j]? =
      if ∃ i ∈ is, place i = j then some v else xs[j]? := by
  induction is generalizing xs with
  | nil => simp
  | cons i is ih =>
    have hj' : j < (xs.set (place i) v).length := by rwa [List.length_set]
    rw [List.foldl_cons, ih _ hj']
    by_cases hrest : ∃ i' ∈ is, place i' = j
    · obtain ⟨i', hi', hplace⟩ := hrest
      rw [if_pos ⟨i', hi', hplace⟩, if_pos ⟨i', List.mem_cons_of_mem i hi', hplace⟩]
    · rw [if_neg hrest]
      by_cases hi : place i = j
      · rw [if_pos ⟨i, List.mem_cons_self, hi⟩, hi, List.getElem?_set_self hj]
      · have hnone : ¬ ∃ i' ∈ i :: is, place i' = j := by
          rintro ⟨i', hi', hplace⟩
          rcases List.mem_cons.mp hi' with rfl | hi'
          · exact hi hplace
          · exact hrest ⟨i', hi', hplace⟩
        rw [if_neg hnone, List.getElem?_set_ne hi]

lemma length_foldl_set {β γ : Type*} (place : γ → ℕ) (v : β) (is : List γ) (xs : List β) :
    (is.foldl (fun xs i => xs.set (place i) v) xs).length = xs.length := by
  induction is generalizing xs with
  | nil => rfl
  | cons i is ih => rw [List.foldl_cons, ih, List.length_set]

/-- Which ray a number stands for modulo the turn. -/
lemma toNat_emod_eq_iff {n j : ℕ} (hj : j < n) (c i : ℤ) :
    ((c % n + i) % (n : ℤ)).toNat = j ↔ ∃ k : ℤ, c + i = j + n * k := by
  have hn : (n : ℤ) ≠ 0 := by omega
  have hnonneg : 0 ≤ (c + i) % (n : ℤ) := Int.emod_nonneg _ hn
  rw [Int.emod_add_emod]
  constructor
  · intro h
    have hdiv := Int.emod_add_mul_ediv (c + i) n
    exact ⟨(c + i) / n, by omega⟩
  · rintro ⟨k, hk⟩
    rw [hk, Int.add_mul_emod_self_left, Int.emod_eq_of_lt (by omega) (by omega), Int.toNat_natCast]

/-! ## Directions modulo the turn -/

section Circle

variable {α : Type*} [Field α] [LinearOrder α] [IsStrictOrderedRing α] [FloorRing α]

/-- How far two directions are apart modulo the period. -/
def circleDistance (period a b : α) : α := |a - b - round ((a - b) / period) * period|

/-- The distance is the least one over all turns. -/
lemma circleDistance_le_iff {period a b gap : α} (hperiod : 0 < period) :
    circleDistance period a b ≤ gap ↔ ∃ k : ℤ, |a - b - k * period| ≤ gap := by
  unfold circleDistance
  constructor
  · intro h
    exact ⟨round ((a - b) / period), h⟩
  · rintro ⟨k, hk⟩
    have hscale (m : ℤ) : |a - b - m * period| = |(a - b) / period - m| * period := by
      rw [← abs_of_pos hperiod, ← abs_mul, abs_of_pos hperiod, sub_mul,
        div_mul_cancel₀ _ hperiod.ne']
    have hround := mul_le_mul_of_nonneg_right (round_le ((a - b) / period) k) hperiod.le
    rw [← hscale, ← hscale] at hround
    exact hround.trans hk

variable {pi bearing angularWidth : α} {numRays : ℕ}

lemma increment_pos (hpi : 0 < pi) (hrays : 0 < numRays) : 0 < increment pi numRays := by
  have hcast : (0 : α) < numRays := Nat.cast_pos.mpr hrays
  unfold increment
  positivity

/-- A ray and the bearing, in rays: the bearing is within the ray it is floored to. -/
lemma ray_sub_bearing (hpi : 0 < pi) (hrays : 0 < numRays) (j : ℕ) (k : ℤ) :
    |rayDirection pi numRays j - bearing - k * (2 * pi)| =
      |((j - numRays * k - ⌊(bearing + pi) / increment pi numRays⌋ : ℤ) : α) -
        Int.fract ((bearing + pi) / increment pi numRays)| * increment pi numRays := by
  have hinc := increment_pos hpi hrays
  have hcast : (numRays : α) ≠ 0 := Nat.cast_ne_zero.mpr hrays.ne'
  have hturn : (numRays : α) * increment pi numRays = 2 * pi := by
    unfold increment
    field_simp
  have hbearing : bearing + pi =
      (⌊(bearing + pi) / increment pi numRays⌋ + Int.fract ((bearing + pi) / increment pi numRays)) *
        increment pi numRays := by
    rw [Int.floor_add_fract, div_mul_cancel₀ _ hinc.ne']
  rw [← abs_of_pos hinc, ← abs_mul, abs_of_pos hinc]
  congr 1
  unfold rayDirection
  push_cast
  linear_combination -hbearing + (k : α) * hturn

/-- The rays the wedge reaches, counted from the bearing without regard to the turn. -/
def Reached (pi bearing angularWidth : α) (numRays j : ℕ) : Prop :=
  ∃ k : ℤ, |j - numRays * k - ⌊(bearing + pi) / increment pi numRays⌋| ≤
    ⌊angularWidth / increment pi numRays⌋

/-- A ray is marked when the wedge reaches it. -/
lemma getElem?_buildRanges (hpi : 0 < pi) (hwidth : 0 ≤ angularWidth) {j : ℕ} (hj : j < numRays)
    (distance robotRadius rangeMin : α) [Decidable (Reached pi bearing angularWidth numRays j)] :
    (buildRanges pi distance bearing robotRadius angularWidth numRays rangeMin)[j]? =
      some (if Reached pi bearing angularWidth numRays j then
        .fin (max (distance - robotRadius) rangeMin) else .posInf) := by
  have hinc := increment_pos hpi (j.zero_le.trans_lt hj)
  have htruncate : truncate (angularWidth / increment pi numRays) =
      ⌊angularWidth / increment pi numRays⌋ := truncate_of_nonneg (div_nonneg hwidth hinc.le)
  have hreached : (∃ i ∈ wedgeOffsets ⌊angularWidth / increment pi numRays⌋,
      ((⌊(bearing + pi) / increment pi numRays⌋ % (numRays : ℤ) + i) % (numRays : ℤ)).toNat = j) ↔
        Reached pi bearing angularWidth numRays j := by
    unfold Reached
    constructor
    · rintro ⟨i, hi, hplace⟩
      obtain ⟨k, hk⟩ := (toNat_emod_eq_iff hj _ _).mp hplace
      obtain ⟨hlow, hhigh⟩ := mem_wedgeOffsets.mp hi
      exact ⟨-k, abs_le.mpr ⟨by linarith, by linarith⟩⟩
    · rintro ⟨k, hk⟩
      obtain ⟨hlow, hhigh⟩ := abs_le.mp hk
      exact ⟨_, mem_wedgeOffsets.mpr ⟨hlow, hhigh⟩, (toNat_emod_eq_iff hj _ _).mpr ⟨-k, by ring⟩⟩
  have hlength : j < (List.replicate numRays (PyFloat.posInf : PyFloat α)).length := by
    rwa [List.length_replicate]
  unfold buildRanges
  dsimp only
  rw [htruncate, getElem?_foldl_set _ _ _ _ hlength, List.getElem?_replicate_of_lt hj]
  by_cases h : Reached pi bearing angularWidth numRays j
  · rw [if_pos (hreached.mpr h), if_pos h]
  · rw [if_neg fun h' => h (hreached.mp h'), if_neg h]

/-- The wedge reaches every ray that is well within the angular width. -/
lemma reached_of_le (hpi : 0 < pi) (hrays : 0 < numRays) {j : ℕ}
    (h : circleDistance (2 * pi) (rayDirection pi numRays j) bearing ≤
      angularWidth - increment pi numRays) :
    Reached pi bearing angularWidth numRays j := by
  have hinc := increment_pos hpi hrays
  obtain ⟨k, hk⟩ := (circleDistance_le_iff (by linarith)).mp h
  rw [ray_sub_bearing hpi hrays] at hk
  have hrays' := (le_div_iff₀ hinc).mpr hk
  rw [sub_div, div_self hinc.ne'] at hrays'
  obtain ⟨hlow, hhigh⟩ := abs_le.mp hrays'
  have hfract := Int.fract_nonneg ((bearing + pi) / increment pi numRays)
  have hfract' := Int.fract_lt_one ((bearing + pi) / increment pi numRays)
  refine ⟨k, abs_le.mpr ⟨?_, Int.le_floor.mpr (by linarith)⟩⟩
  rw [neg_le]
  refine Int.le_floor.mpr ?_
  push_cast at *
  linarith

/-- The wedge reaches no ray that is well outside of the angular width. -/
lemma le_of_reached (hpi : 0 < pi) (hrays : 0 < numRays) {j : ℕ}
    (h : Reached pi bearing angularWidth numRays j) :
    circleDistance (2 * pi) (rayDirection pi numRays j) bearing ≤
      angularWidth + increment pi numRays := by
  have hinc := increment_pos hpi hrays
  obtain ⟨k, hk⟩ := h
  refine (circleDistance_le_iff (by linarith)).mpr ⟨k, ?_⟩
  have hwidth : (angularWidth + increment pi numRays) / increment pi numRays =
      angularWidth / increment pi numRays + 1 := by rw [add_div, div_self hinc.ne']
  rw [ray_sub_bearing hpi hrays, ← le_div_iff₀ hinc, hwidth]
  have hfract := Int.fract_nonneg ((bearing + pi) / increment pi numRays)
  have hfract' := Int.fract_lt_one ((bearing + pi) / increment pi numRays)
  have hfloor := Int.floor_le (angularWidth / increment pi numRays)
  have hcast : |((j - numRays * k - ⌊(bearing + pi) / increment pi numRays⌋ : ℤ) : α)| ≤
      ⌊angularWidth / increment pi numRays⌋ := by exact_mod_cast hk
  obtain ⟨hlow, hhigh⟩ := abs_le.mp hcast
  exact abs_le.mpr ⟨by linarith, by linarith⟩

end Circle

/-- **The wedge.**  Every ray within the angular width less one increment of the bearing, modulo
the turn, is marked, and no ray beyond the angular width and one increment is; a marked ray shows
the near edge of the other robot, and the others show nothing. -/
theorem wedge_marks (distance bearing robotRadius angularWidth rangeMin : ℝ) (numRays : ℕ)
    (hrays : 0 < numRays) (hwidth : 0 ≤ angularWidth) :
    let ranges := buildRanges Real.pi distance bearing robotRadius angularWidth numRays rangeMin
    ranges.length = numRays ∧
      ∀ j < numRays,
        (circleDistance (2 * Real.pi) (rayDirection Real.pi numRays j) bearing ≤
            angularWidth - increment Real.pi numRays → Marked ranges j) ∧
        (angularWidth + increment Real.pi numRays <
            circleDistance (2 * Real.pi) (rayDirection Real.pi numRays j) bearing →
          ¬ Marked ranges j) ∧
        (Marked ranges j → ranges[j]? = some (.fin (max (distance - robotRadius) rangeMin))) ∧
        (¬ Marked ranges j → ranges[j]? = some .posInf) := by
  classical
  intro ranges
  have hlength : ranges.length = numRays :=
    (length_foldl_set _ _ _ _).trans List.length_replicate
  refine ⟨hlength, fun j hj => ?_⟩
  have hget : ranges[j]? = some (if Reached Real.pi bearing angularWidth numRays j then
      .fin (max (distance - robotRadius) rangeMin) else .posInf) :=
    getElem?_buildRanges Real.pi_pos hwidth hj distance robotRadius rangeMin
  have hmarked : Marked ranges j ↔ Reached Real.pi bearing angularWidth numRays j := by
    unfold Marked
    rw [hget]
    by_cases h : Reached Real.pi bearing angularWidth numRays j
    · exact iff_of_true ⟨_, by rw [if_pos h]⟩ h
    · rw [if_neg h]
      exact iff_of_false (by rintro ⟨x, hx⟩; cases hx) h
  refine ⟨fun h => hmarked.mpr (reached_of_le Real.pi_pos hrays h), ?_, ?_, ?_⟩
  · intro h hmark
    exact absurd (le_of_reached Real.pi_pos hrays (hmarked.mp hmark)) (not_le.mpr h)
  · intro hmark
    rw [hget, if_pos (hmarked.mp hmark)]
  · intro hmark
    rw [hget, if_neg fun h => hmark (hmarked.mpr h)]

/-- The bearing is a turn and a half to the right, and the wedge is one ray to each side. -/
theorem wedge_marks_behind :
    (buildRanges Real.pi 2 (-(3 * Real.pi)) 1 Real.pi 4 0).length = 4 :=
  (wedge_marks 2 (-(3 * Real.pi)) 1 Real.pi 0 4 (by norm_num) Real.pi_pos.le).1

example : buildRanges (3 : ℚ) 2 (-9) 1 (3 / 2) 4 0 = [.fin 1, .fin 1, .posInf, .fin 1] := by
  decide +kernel

end Traffic

end MiniatureWarehouse
