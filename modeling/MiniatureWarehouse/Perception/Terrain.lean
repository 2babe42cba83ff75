import MiniatureWarehouse.Interfaces.Perception
import Mathlib.Algebra.Order.Floor.Ring
import Mathlib.Data.List.MinMax

/-!
# The terrain core

One depth frame, already projected into body coordinates, is binned into a metric grid ahead of
the wheel-contact datum; every cell is classified against the fitted ground plane; the corridor
about to be driven is folded row by row into the coverage payload, and the cells with drop
evidence are projected into a virtual laser scan.

The arithmetic is exact: `α` is any ordered field with a floor.  The angle functions of the scan
are a parameter.
-/

namespace MiniatureWarehouse

namespace Perception

variable {α : Type*} [Field α] [LinearOrder α]

/-- The functions of the mathematical library that the terrain core calls on finite arguments. -/
structure PlanarMath (α : Type*) [Field α] [LinearOrder α] where
  hypot : α → α → α
  atan : α → α
  atan2 : α → α → α
  hypot_nonneg : ∀ x y, 0 ≤ hypot x y
  atan_nonneg : ∀ x, 0 ≤ x → 0 ≤ atan x

/-- A rational library to evaluate the model with: the hypotenuse is exact where it is rational,
the angles are first-order. -/
def PlanarMath.rational : PlanarMath ℚ where
  hypot x y := Rat.sqrt (x * x + y * y)
  atan x := x
  atan2 y x := y / x
  hypot_nonneg _ _ := Rat.sqrt_nonneg _
  atan_nonneg _ h := h

/-! ## The parameters -/

/-- `_INDEX_EPS`: the slack of the floors and ceilings that turn distances into indices. -/
def indexEps : α := ((10 : α) ^ 9)⁻¹

/-- `TerrainGridParams`, with what its constructor checks. -/
structure TerrainGridParams (α : Type*) [Field α] [LinearOrder α] where
  cellSizeM : α
  corridorHalfWidthM : α
  forwardRangeM : α
  minPointsPerCell : ℕ
  dropThresholdM : α
  minValidFraction : α
  cell_pos : 0 < cellSizeM
  corridor_pos : 0 < corridorHalfWidthM
  corridor_holds_bin : ¬ corridorHalfWidthM + indexEps < cellSizeM / 2
  range_pos : 0 < forwardRangeM
  range_holds_cell : ¬ forwardRangeM + indexEps < cellSizeM
  points_pos : 1 ≤ minPointsPerCell
  drop_pos : 0 < dropThresholdM
  fraction_pos : 0 < minValidFraction
  fraction_le_one : minValidFraction ≤ 1

/-- `MountingGeometry`, of which the grid reads the datum only. -/
structure MountingGeometry (α : Type*) where
  referenceOffsetM : α

/-- `GroundFitParams`, of which the grid reads the floor band only. -/
structure GroundFitParams (α : Type*) [Field α] [LinearOrder α] where
  planeToleranceM : α
  tolerance_pos : 0 < planeToleranceM

/-- `TerrainParams`: the bundle, whose floor band and drop band are disjoint. -/
structure TerrainParams (α : Type*) [Field α] [LinearOrder α] where
  mounting : MountingGeometry α
  grid : TerrainGridParams α
  groundFit : GroundFitParams α
  bands_disjoint : groundFit.planeToleranceM < grid.dropThresholdM

/-- `CliffScanParams`: the shape of the virtual scan. -/
structure CliffScanParams (α : Type*) [Field α] [LinearOrder α] where
  angleMinRad : α
  angleMaxRad : α
  rayCount : ℕ
  rangeMinM : α
  rangeMaxM : α
  angle_lt : angleMinRad < angleMaxRad
  ray_pos : 1 ≤ rayCount
  rangeMin_pos : 0 < rangeMinM
  range_lt : rangeMinM < rangeMaxM

/-- `angle_increment_rad`: the width of one ray bin. -/
def CliffScanParams.angleIncrementRad (scan : CliffScanParams α) : α :=
  (scan.angleMaxRad - scan.angleMinRad) / scan.rayCount

/-! ## Points, plane and cells -/

/-- A point of the body frame: forward, left, up. -/
structure Point3 (α : Type*) where
  x : α
  y : α
  z : α

/-- `GroundPlane`: the retained model with its support. -/
structure GroundPlane (α : Type*) where
  a : α
  b : α
  c : α
  inlierCount : ℕ
  pointCount : ℕ
  usedPrior : Bool
  rejectedCandidates : ℕ

namespace GroundPlane

variable (plane : GroundPlane α)

/-- `height_at`. -/
def heightAt (x y : α) : α := plane.a * x + plane.b * y + plane.c

/-- `z - plane.height_at(x, y)`: the signed height of a point above the estimated ground. -/
def residual (p : Point3 α) : α := p.z - plane.heightAt p.x p.y

/-- `inlier_fraction`. -/
def inlierFraction : α := if plane.pointCount = 0 then 0 else plane.inlierCount / plane.pointCount

/-- `tilt_rad`. -/
def tiltRad (M : PlanarMath α) : α := M.atan (M.hypot plane.a plane.b)

end GroundPlane

/-- `CellObservation`: one classified cell with the counts the rule ran on. -/
structure CellObservation (α : Type*) where
  ix : ℤ
  iy : ℤ
  state : TerrainState
  pointCount : ℕ
  floorPointCount : ℕ
  dropPointCount : ℕ
  minResidualM : α

/-- `TerrainGrid`: the classified cells and the corridor the coverage is computed on. -/
structure TerrainGrid (α : Type*) where
  cells : Dict (ℤ × ℤ) (CellObservation α)
  forwardCellCount : ℤ
  corridorIndices : List ℤ
  cellSizeM : α

/-- `range(low, high)`. -/
def pyRange (low high : ℤ) : List ℤ :=
  (List.range (high - low).toNat).map fun n : ℕ => low + (n : ℤ)

namespace TerrainGrid

variable (grid : TerrainGrid α)

/-- `state_at`: an absent cell was not observed. -/
def stateAt (ix iy : ℤ) : TerrainState := ((grid.cells.get? (ix, iy)).map (·.state)).getD .unknown

/-- `row_state`: drop evidence outranks the rest, and a row is confirmed only as a whole. -/
def rowState (ix : ℤ) : TerrainState :=
  let states := grid.corridorIndices.map (grid.stateAt ix)
  if .dropDetected ∈ states then .dropDetected
  else if states ≠ [] ∧ ∀ s ∈ states, s = .floorConfirmed then .floorConfirmed
  else .unknown

/-- `row_states`, nearest first. -/
def rowStates : List TerrainState := (pyRange 0 grid.forwardCellCount).map grid.rowState

end TerrainGrid

/-! ## Classification -/

section Classify

variable (params : TerrainParams α)

/-- The points of a cell inside the floor band. -/
def floorPoints (residuals : List α) : ℕ :=
  residuals.countP fun r => |r| ≤ params.groundFit.planeToleranceM

/-- The points of a cell deep enough to be drop evidence. -/
def dropPoints (residuals : List α) : ℕ :=
  residuals.countP fun r => r ≤ -params.grid.dropThresholdM

/-- The classification rule, in its order: too little evidence, any drop, enough floor. -/
def cellState (residuals : List α) : TerrainState :=
  if residuals.length < params.grid.minPointsPerCell then .unknown
  else if 0 < dropPoints params residuals then .dropDetected
  else if params.grid.minPointsPerCell ≤ floorPoints params residuals then .floorConfirmed
  else .unknown

/-- One classified cell.  A cell that exists has a point, so the minimum is over something. -/
def observeCell (key : ℤ × ℤ) (residuals : List α) : CellObservation α where
  ix := key.1
  iy := key.2
  state := cellState params residuals
  pointCount := residuals.length
  floorPointCount := floorPoints params residuals
  dropPointCount := dropPoints params residuals
  minResidualM := residuals.min?.getD 0

variable [FloorRing α]

/-- `forward_cell_count`: the complete cells between the datum and the forward range. -/
def TerrainGridParams.forwardCellCount (g : TerrainGridParams α) : ℤ :=
  ⌊g.forwardRangeM / g.cellSizeM + indexEps⌋

/-- `corridor_lateral_indices`: the lateral bins whose centre lies inside the corridor. -/
def corridorLateralIndices (g : TerrainGridParams α) : List ℤ :=
  let ratio := g.corridorHalfWidthM / g.cellSizeM
  let low := ⌈-ratio - 1 / 2 - indexEps⌉
  let high := ⌊ratio - 1 / 2 + indexEps⌋
  pyRange low (high + 1)

/-- The cell a point falls into, unless it lies behind the datum or beyond the forward range. -/
def cellOf (p : Point3 α) : Option (ℤ × ℤ) :=
  let ix := ⌊(p.x - params.mounting.referenceOffsetM) / params.grid.cellSizeM + indexEps⌋
  if ix < 0 ∨ params.grid.forwardCellCount ≤ ix then none
  else some (ix, ⌊p.y / params.grid.cellSizeM + indexEps⌋)

/-- `classify_cells`: bin the points and classify every cell. -/
def classifyCells (points : List (Point3 α)) (plane : GroundPlane α) : TerrainGrid α where
  cells := (Dict.groupBy (cellOf params) plane.residual points).mapValues (observeCell params)
  forwardCellCount := params.grid.forwardCellCount
  corridorIndices := corridorLateralIndices params.grid
  cellSizeM := params.grid.cellSizeM

end Classify

/-! ## Coverage -/

/-- The arguments `terrain_coverage` passes through to the payload. -/
structure CoverageArgs (α : Type*) where
  validFraction : PyFloat α
  sourceStampS : PyFloat α
  reference : String
  frameDigest : Option String
  deviceFrameSeq : Option ℤ
  processingLatencyS : Option (PyFloat α)

section Coverage

variable (M : PlanarMath α) (params : TerrainParams α) (grid : TerrainGrid α)

/-- The number of consecutive confirmed rows from the datum. -/
def confirmedCells : ℕ := (grid.rowStates.takeWhile (· = .floorConfirmed)).length

/-- `confirmed_distance_m`: nothing is confirmed while the quality is not established. -/
def confirmedDistance (validFraction : PyFloat α) : Option α :=
  if .fin params.grid.minValidFraction ≤ validFraction ∧ 0 < confirmedCells grid then
    some (confirmedCells grid * grid.cellSizeM)
  else none

/-- The nearest row with drop evidence. -/
def firstDropRow : Option ℕ := grid.rowStates.findIdx? (· = .dropDetected)

/-- The most negative residual of the drop cells of a row. -/
def stepHeight (ix : ℤ) : Option α :=
  ((grid.corridorIndices.filter fun iy => grid.stateAt ix iy = .dropDetected).filterMap fun iy =>
    (grid.cells.get? (ix, iy)).map (·.minResidualM)).min?

/-- The state of the payload. -/
def coverageState (nearestDrop confirmed : Option α) : TerrainState :=
  if nearestDrop.isSome then .dropDetected
  else if ∃ d ∈ confirmed, 0 < d then .floorConfirmed
  else .unknown

/-- The payload of `terrain_coverage`, before its validators run. -/
def coveragePayload (ground : GroundPlane α) (args : CoverageArgs α) : TerrainCoverage α :=
  let confirmed := confirmedDistance params grid args.validFraction
  let nearestDrop := (firstDropRow grid).map fun ix : ℕ => (ix : α) * grid.cellSizeM
  let step := (firstDropRow grid).bind fun ix => stepHeight grid ix
  { sourceStampS := args.sourceStampS
    reference := args.reference
    state := coverageState nearestDrop confirmed
    confirmedDistanceM := confirmed.map .fin
    nearestDropDistanceM := nearestDrop.map .fin
    stepHeightM := step.map .fin
    slope := none
    roughnessM := none
    estimateErrorM := none
    quality :=
      { validFraction := args.validFraction
        frameDigest := args.frameDigest
        deviceFrameSeq := args.deviceFrameSeq
        processingLatencyS := args.processingLatencyS
        groundPlaneTiltRad := some (.fin (ground.tiltRad M))
        groundPlaneOffsetM := some (.fin ground.c)
        groundInlierFraction := some (.fin ground.inlierFraction)
        groundFromPrior := some ground.usedPrior
        groundRejectedCandidates := some ground.rejectedCandidates } }

/-- `terrain_coverage`. -/
def terrainCoverage (ground : GroundPlane α) (args : CoverageArgs α) :
    Except PyErr (Subtype (TerrainCoverage.Valid (α := α))) :=
  checked TerrainCoverage.Valid (coveragePayload M params grid ground args)

end Coverage

/-! ## The virtual scan -/

/-- `CliffScan`, without the parameters it copies; `⊤` is a ray with no cliff. -/
structure CliffScan (α : Type*) where
  ranges : List (WithTop α)
  sourceStampS : PyFloat α
  dropCellCount : ℕ
  omittedCellCount : ℕ

section Cliff

variable [FloorRing α] (M : PlanarMath α) (scan : CliffScanParams α) (cellSize : α)

/-- The ray a cell is aimed at, by its centre. -/
def cellRay (cell : CellObservation α) : ℤ :=
  let bearing := M.atan2 ((cell.iy + 1 / 2) * cellSize) ((cell.ix + 1 / 2) * cellSize)
  ⌊(bearing - scan.angleMinRad) / scan.angleIncrementRad + indexEps⌋

omit [FloorRing α] in
/-- The distance a cell is reported at: its near edge, at the lateral centre. -/
def cellDistance (cell : CellObservation α) : α :=
  M.hypot (cell.ix * cellSize) ((cell.iy + 1 / 2) * cellSize)

/-- A cell the scan can express: inside the bearing and the range window. -/
def InScan (cell : CellObservation α) : Prop :=
  (0 ≤ cellRay M scan cellSize cell ∧ cellRay M scan cellSize cell < scan.rayCount) ∧
    scan.rangeMinM ≤ cellDistance M cellSize cell ∧ cellDistance M cellSize cell ≤ scan.rangeMaxM

instance (cell : CellObservation α) : Decidable (InScan M scan cellSize cell) :=
  inferInstanceAs (Decidable (_ ∧ _))

/-- The loop body of `cliff_ranges`: a drop cell lowers its ray, or is counted as omitted. -/
def projectCell (acc : CliffScan α) (cell : CellObservation α) : CliffScan α :=
  if cell.state ≠ .dropDetected then acc
  else if InScan M scan cellSize cell then
    let distance : WithTop α := ((cellDistance M cellSize cell : α) : WithTop α)
    { acc with
      ranges := acc.ranges.modify (cellRay M scan cellSize cell).toNat fun r =>
        if distance < r then distance else r
      dropCellCount := acc.dropCellCount + 1 }
  else
    { acc with
      dropCellCount := acc.dropCellCount + 1
      omittedCellCount := acc.omittedCellCount + 1 }

/-- `cliff_ranges`. -/
def cliffRanges (grid : TerrainGrid α) (sourceStampS : PyFloat α) : CliffScan α :=
  (grid.cells.entries.map Prod.snd).foldl (projectCell M scan grid.cellSizeM)
    { ranges := List.replicate scan.rayCount ⊤
      sourceStampS := sourceStampS
      dropCellCount := 0
      omittedCellCount := 0 }

end Cliff

end Perception

end MiniatureWarehouse
