import MiniatureWarehouse.Perception.TerrainVerdict
import Mathlib.Analysis.SpecialFunctions.Complex.Arg
import Mathlib.Analysis.Real.Pi.Bounds
import Mathlib.Analysis.SpecialFunctions.Trigonometric.Arctan

/-!
# The range of a projected cliff

A drop cell is reported at the distance of its near edge, taken at the lateral centre of the cell.
The points of the cell lie anywhere between its lateral edges, so on the side of the axis the
representative can be farther from the datum than the drop point it stands for.  The range is on
the robot's side of a point exactly when some drop cell of the same ray has a representative no
farther away than the point.
-/

namespace MiniatureWarehouse

namespace Perception

/-- The library of exact real functions. -/
noncomputable def PlanarMath.real : PlanarMath ℝ where
  hypot x y := Real.sqrt (x ^ 2 + y ^ 2)
  atan := Real.arctan
  atan2 y x := Complex.arg ⟨x, y⟩
  hypot_nonneg _ _ := Real.sqrt_nonneg _
  atan_nonneg _ h := Real.arctan_nonneg.mpr h

section Scan

variable {α : Type*} [Field α] [LinearOrder α] [FloorRing α] (M : PlanarMath α)
  (scan : CliffScanParams α) (grid : TerrainGrid α) (stamp : PyFloat α)

/-- A drop cell of the grid that the scan projects onto the ray `i`. -/
def ProjectedOn (i : ℤ) (cell : CellObservation α) : Prop :=
  (∃ key, grid.cells.get? key = some cell) ∧ cell.state = .dropDetected ∧
    InScan M scan grid.cellSizeM cell ∧ cellRay M scan grid.cellSizeM cell = i

/-- The range of a ray is within a distance when some cell projected onto it is. -/
lemma range_le_iff {i : ℕ} {r : WithTop α} (h : (cliffRanges M scan grid stamp).ranges[i]? = some r)
    (x : α) :
    r ≤ x ↔ ∃ cell, ProjectedOn M scan grid i cell ∧ cellDistance M grid.cellSizeM cell ≤ x := by
  have hi : i < scan.rayCount := by
    obtain ⟨hlt, -⟩ := List.getElem?_eq_some_iff.mp h
    rwa [length_ranges_cliffRanges] at hlt
  rw [getElem?_ranges_cliffRanges M scan grid stamp hi, Option.some.injEq] at h
  rw [← h, List.minimum_le_coe_iff]
  unfold rayDistances ProjectedOn
  constructor
  · rintro ⟨d, hd, hle⟩
    obtain ⟨cell, hcell, rfl⟩ := List.mem_map.mp hd
    obtain ⟨hmem, hproj⟩ := List.mem_filter.mp hcell
    obtain ⟨e, he, rfl⟩ := List.mem_map.mp hmem
    exact ⟨e.2, ⟨⟨e.1, (grid.cells.mem_entries_iff).mp he⟩, of_decide_eq_true hproj⟩, hle⟩
  · rintro ⟨cell, ⟨⟨key, hkey⟩, hproj⟩, hle⟩
    refine ⟨_, List.mem_map_of_mem (List.mem_filter.mpr ⟨?_, decide_eq_true hproj⟩), hle⟩
    exact List.mem_map_of_mem ((grid.cells.mem_entries_iff).mpr hkey)

/-- Every projected cell has a ray of the scan to report it. -/
lemma exists_range_of_projectedOn {i : ℤ} {cell : CellObservation α}
    (h : ProjectedOn M scan grid i cell) :
    ∃ r, (cliffRanges M scan grid stamp).ranges[i.toNat]? = some r := by
  obtain ⟨-, -, ⟨⟨hnonneg, hlt⟩, -⟩, rfl⟩ := h
  refine ⟨_, getElem?_ranges_cliffRanges M scan grid stamp ?_⟩
  omega

end Scan

/-- A drop point of a cell: one of its points at drop depth. -/
def IsDropPoint {α : Type*} [Field α] [LinearOrder α] [FloorRing α] (params : TerrainParams α)
    (points : List (Point3 α)) (plane : GroundPlane α) (key : ℤ × ℤ) (p : Point3 α) : Prop :=
  p ∈ points ∧ cellOf params p = some key ∧ plane.residual p ≤ -params.grid.dropThresholdM

/-- The planar triangle inequality, for a displacement given by its two legs. -/
lemma sqrt_add_sq_le {a b u v : ℝ} (hu : 0 ≤ u) (hv : 0 ≤ v) :
    Real.sqrt ((a + u) ^ 2 + (b + v) ^ 2) ≤ Real.sqrt (a ^ 2 + b ^ 2) + u + v := by
  have hsum : 0 ≤ a ^ 2 + b ^ 2 := by positivity
  have hroot := Real.sq_sqrt hsum
  have hleft : a ≤ Real.sqrt (a ^ 2 + b ^ 2) := Real.le_sqrt_of_sq_le (by nlinarith)
  have hright : b ≤ Real.sqrt (a ^ 2 + b ^ 2) := Real.le_sqrt_of_sq_le (by nlinarith)
  rw [Real.sqrt_le_left (by positivity)]
  nlinarith [mul_le_mul_of_nonneg_right hleft hu, mul_le_mul_of_nonneg_right hright hv,
    mul_nonneg hu hv]

section Range

variable (params : TerrainParams ℝ) (points : List (Point3 ℝ)) (plane : GroundPlane ℝ)
  (scan : CliffScanParams ℝ) (stamp : PyFloat ℝ)

/-- `dist p` in the plane, from the datum. -/
noncomputable def planarDistance (p : Point3 ℝ) : ℝ :=
  Real.sqrt ((p.x - params.mounting.referenceOffsetM) ^ 2 + p.y ^ 2)

/-- The ray of every projected drop cell reports at most the distance of each of its drop
points. -/
def RangesErrTowardRobot : Prop :=
  let grid := classifyCells params points plane
  ∀ key cell i, grid.cells.get? key = some cell →
    ProjectedOn PlanarMath.real scan grid i cell →
    ∀ p, IsDropPoint params points plane key p →
    ∀ r, (cliffRanges PlanarMath.real scan grid stamp).ranges[i.toNat]? = some r →
      r ≤ (planarDistance params p : WithTop ℝ)

/-- On the ray of every projected drop cell, each of its drop points is no nearer to the datum
than the representative of some drop cell: the near edge of a row at a lateral centre. -/
def RepresentativesCover : Prop :=
  let grid := classifyCells params points plane
  ∀ key cell i, grid.cells.get? key = some cell →
    ProjectedOn PlanarMath.real scan grid i cell →
    ∀ p, IsDropPoint params points plane key p →
    ∃ other, ProjectedOn PlanarMath.real scan grid i other ∧
      (other.ix * params.grid.cellSizeM) ^ 2 + ((other.iy + 1 / 2) * params.grid.cellSizeM) ^ 2 ≤
        (p.x - params.mounting.referenceOffsetM) ^ 2 + p.y ^ 2

lemma cellDistance_le_planarDistance_iff (cell : CellObservation ℝ) (p : Point3 ℝ) :
    cellDistance PlanarMath.real params.grid.cellSizeM cell ≤ planarDistance params p ↔
      (cell.ix * params.grid.cellSizeM) ^ 2 + ((cell.iy + 1 / 2) * params.grid.cellSizeM) ^ 2 ≤
        (p.x - params.mounting.referenceOffsetM) ^ 2 + p.y ^ 2 := by
  unfold cellDistance planarDistance PlanarMath.real
  exact Real.sqrt_le_sqrt_iff (add_nonneg (sq_nonneg _) (sq_nonneg _))

/-- The overshoot is bounded all the same: a range exceeds the distance of a drop point by half a
cell at most, up to the slack of the index arithmetic. -/
theorem range_le_planarDistance_add {key : ℤ × ℤ} {cell : CellObservation ℝ} {i : ℤ}
    (hcell : (classifyCells params points plane).cells.get? key = some cell)
    (hproj : ProjectedOn PlanarMath.real scan (classifyCells params points plane) i cell)
    {p : Point3 ℝ} (hp : IsDropPoint params points plane key p) {r : WithTop ℝ}
    (hr : (cliffRanges PlanarMath.real scan (classifyCells params points plane) stamp).ranges[i.toNat]?
      = some r) :
    r ≤ ((planarDistance params p + (1 / 2 + 2 * indexEps) * params.grid.cellSizeM : ℝ) :
      WithTop ℝ) := by
  have hnonneg : 0 ≤ i := hproj.2.2.2 ▸ hproj.2.2.1.1.1
  refine (range_le_iff PlanarMath.real scan _ stamp hr _).mpr ⟨cell, ?_, ?_⟩
  · rwa [Int.toNat_of_nonneg hnonneg]
  have hkey : (cell.ix, cell.iy) = key := by
    rw [get?_classifyCells] at hcell
    split_ifs at hcell
    rw [← Option.some.inj hcell]
    rfl
  have hcs := params.grid.cell_pos
  set cs := params.grid.cellSizeM
  set X := p.x - params.mounting.referenceOffsetM with hX
  have heps : (0 : ℝ) ≤ indexEps := by
    unfold indexEps
    positivity
  -- where the point lies in its cell
  have hcellOf := hp.2.1
  rw [← hkey] at hcellOf
  have hbounds := cellOf_eq_some_bounds params hcellOf
  obtain ⟨hix, hiy⟩ := of_cellOf_eq_some params hcellOf
  have hforward : (cell.ix : ℝ) * cs ≤ |X| + indexEps * cs := by
    have hfloor : (cell.ix : ℝ) ≤ X / cs + indexEps := (Int.floor_eq_iff.mp hix).1
    calc (cell.ix : ℝ) * cs ≤ (X / cs + indexEps) * cs := by gcongr
      _ = X + indexEps * cs := by field_simp
      _ ≤ |X| + indexEps * cs := by gcongr; exact le_abs_self X
  have hlateral : |((cell.iy : ℝ) + 1 / 2) * cs| ≤ |p.y| + (1 / 2 + indexEps) * cs := by
    have hlow : (cell.iy : ℝ) ≤ p.y / cs + indexEps := (Int.floor_eq_iff.mp hiy).1
    have hhigh : p.y / cs + indexEps < cell.iy + 1 := (Int.floor_eq_iff.mp hiy).2
    have hoffset : |((cell.iy : ℝ) + 1 / 2) - p.y / cs| ≤ 1 / 2 + indexEps := by
      rw [abs_le]
      constructor <;> linarith
    have hscaled : |((cell.iy : ℝ) + 1 / 2) * cs - p.y| ≤ (1 / 2 + indexEps) * cs := by
      have hfactor : ((cell.iy : ℝ) + 1 / 2) * cs - p.y =
          (((cell.iy : ℝ) + 1 / 2) - p.y / cs) * cs := by field_simp
      rw [hfactor, abs_mul, abs_of_pos hcs]
      gcongr
    calc |((cell.iy : ℝ) + 1 / 2) * cs|
        = |p.y + (((cell.iy : ℝ) + 1 / 2) * cs - p.y)| := by rw [add_sub_cancel]
      _ ≤ |p.y| + |((cell.iy : ℝ) + 1 / 2) * cs - p.y| := abs_add_le _ _
      _ ≤ |p.y| + (1 / 2 + indexEps) * cs := by gcongr
  have hnear : (0 : ℝ) ≤ cell.ix * cs := mul_nonneg (by exact_mod_cast hbounds.1) hcs.le
  -- the representative is the point, moved by at most the slack and half a cell
  calc cellDistance PlanarMath.real cs cell
      = Real.sqrt ((cell.ix * cs) ^ 2 + |((cell.iy : ℝ) + 1 / 2) * cs| ^ 2) := by
        rw [sq_abs]
        rfl
    _ ≤ Real.sqrt ((|X| + indexEps * cs) ^ 2 + (|p.y| + (1 / 2 + indexEps) * cs) ^ 2) := by
        gcongr
    _ ≤ Real.sqrt (|X| ^ 2 + |p.y| ^ 2) + indexEps * cs + (1 / 2 + indexEps) * cs :=
        sqrt_add_sq_le (by positivity) (by positivity)
    _ = planarDistance params p + (1 / 2 + 2 * indexEps) * cs := by
        rw [sq_abs, sq_abs]
        unfold planarDistance
        ring

end Range

/-! A drop point on the axis, at the near edge of its cell. -/

/-- A grid of unit cells, two rows deep, with one lateral bin on each side. -/
noncomputable def unitCellParams : TerrainParams ℝ where
  mounting := ⟨0⟩
  grid :=
    { cellSizeM := 1
      corridorHalfWidthM := 1
      forwardRangeM := 2
      minPointsPerCell := 1
      dropThresholdM := 1 / 5
      minValidFraction := 1 / 2
      cell_pos := by norm_num
      corridor_pos := by norm_num
      corridor_holds_bin := by norm_num [indexEps]
      range_pos := by norm_num
      range_holds_cell := by norm_num [indexEps]
      points_pos := nat_one_le_one
      drop_pos := by norm_num
      fraction_pos := by norm_num
      fraction_le_one := by norm_num }
  groundFit := ⟨1 / 10, by norm_num⟩
  bands_disjoint := by norm_num

/-- A point straight ahead, one metre away and one metre down. -/
noncomputable def edgePoint : Point3 ℝ := ⟨1, 0, -1⟩

/-- The ground where the mounting says it is. -/
noncomputable def mountingPlane : GroundPlane ℝ := ⟨0, 0, 0, 0, 1, true, 0⟩

/-- A single ray that sees every bearing. -/
noncomputable def fullCircle : CliffScanParams ℝ :=
  ⟨-4, 4, 1, 1 / 2, 10, by norm_num, nat_one_le_one, by norm_num, by norm_num⟩

lemma cellOf_edgePoint : cellOf unitCellParams edgePoint = some (1, 0) := by
  have hcount : unitCellParams.grid.forwardCellCount = 2 := by
    unfold TerrainGridParams.forwardCellCount unitCellParams
    rw [Int.floor_eq_iff]
    norm_num [indexEps]
  have hforward : ⌊(1 : ℝ) + indexEps⌋ = 1 := by
    rw [Int.floor_eq_iff]
    norm_num [indexEps]
  have hlateral : ⌊(indexEps : ℝ)⌋ = 0 := by
    rw [Int.floor_eq_iff]
    norm_num [indexEps]
  unfold cellOf
  rw [hcount]
  simp [unitCellParams, edgePoint, hforward, hlateral]

/-- Every bearing falls on the only ray. -/
lemma cellRay_fullCircle (cell : CellObservation ℝ) :
    cellRay PlanarMath.real fullCircle 1 cell = 0 := by
  have hlow := Complex.neg_pi_lt_arg ⟨((cell.ix : ℝ) + 1 / 2) * 1, ((cell.iy : ℝ) + 1 / 2) * 1⟩
  have hhigh := Complex.arg_le_pi ⟨((cell.ix : ℝ) + 1 / 2) * 1, ((cell.iy : ℝ) + 1 / 2) * 1⟩
  have hpi := Real.pi_lt_d2
  unfold cellRay CliffScanParams.angleIncrementRad fullCircle PlanarMath.real
  dsimp only
  rw [Int.floor_eq_iff]
  norm_num [indexEps] at *
  constructor <;> linarith

end Perception

end MiniatureWarehouse
