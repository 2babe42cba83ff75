import MiniatureWarehouse.Perception.DepthFrame
import MiniatureWarehouse.Perception.GroundFit
import Mathlib.Algebra.Order.Floor.Ring

/-!
# The analysis of a depth frame

The whole chain over one frame, in floats: the usable pixels, their points, the ground plane, the
classified cells, the coverage payload and the virtual scan.

The chain is the one the exact terrain core has, but over the numbers the code really computes
with.  Two things are added by that.  A float that is to become an index may be infinite or `NaN`,
and `math.floor` raises on these; and a distance that is not finite is refused by the contract of
the payload.
-/

namespace MiniatureWarehouse

namespace Perception

namespace Frame

variable {α : Type*} [Field α] [LinearOrder α]

/-! ## From floats to indices -/

section Floor

variable [FloorRing α]

/-- `math.floor`. -/
def pyFloor : PyFloat α → Except PyErr ℤ
  | .fin x => .ok ⌊x⌋
  | .nan => .error .valueError
  | .posInf | .negInf => .error .overflowError

/-- `math.ceil`. -/
def pyCeil : PyFloat α → Except PyErr ℤ
  | .fin x => .ok ⌈x⌉
  | .nan => .error .valueError
  | .posInf | .negInf => .error .overflowError

end Floor

variable [IsStrictOrderedRing α]

section Indices

variable (F : FloatFormat α)

/-- `_INDEX_EPS`. -/
def indexEps : PyFloat α := F.round (1 / 10 ^ 9)

/-- `n * x` with an integer `n`. -/
def intTimes (n : ℤ) (x : PyFloat α) : Except PyErr (PyFloat α) :=
  ((PyVal.int n : PyVal α).toFloat F).map fun n => F.mul n x

end Indices

/-! ## The parameters -/

/-- `TerrainGridParams`, with what its constructor checks in floats. -/
structure GridParams (F : FloatFormat α) where
  cellSizeM : α
  corridorHalfWidthM : α
  forwardRangeM : α
  minPointsPerCell : ℕ
  dropThresholdM : α
  minValidFraction : α
  cell_pos : 0 < cellSizeM
  corridor_pos : 0 < corridorHalfWidthM
  corridor_holds_bin :
    ¬ F.add (.fin corridorHalfWidthM) (indexEps F) < F.div (.fin cellSizeM) (.fin 2)
  range_pos : 0 < forwardRangeM
  range_holds_cell : ¬ F.add (.fin forwardRangeM) (indexEps F) < .fin cellSizeM
  points_pos : 1 ≤ minPointsPerCell
  drop_pos : 0 < dropThresholdM
  fraction_pos : 0 < minValidFraction
  fraction_le_one : minValidFraction ≤ 1

/-- `TerrainParams`: the bundle, whose floor band and drop band are disjoint. -/
structure Params (F : FloatFormat α) where
  intrinsics : CameraIntrinsics α
  mounting : CameraMounting α
  grid : GridParams F
  groundFit : ConeParams α
  bands_disjoint : groundFit.planeToleranceM < grid.dropThresholdM

variable {F : FloatFormat α} (params : Params F)

/-! ## Classification -/

section Classify

/-- `(x - offset) / cell_size + _INDEX_EPS`. -/
def forwardCoordinate (p : Point3 (PyFloat α)) : PyFloat α :=
  F.add (F.div (F.sub p.x (.fin params.mounting.referenceOffsetM)) (.fin params.grid.cellSizeM))
    (indexEps F)

/-- `y / cell_size + _INDEX_EPS`. -/
def lateralCoordinate (p : Point3 (PyFloat α)) : PyFloat α :=
  F.add (F.div p.y (.fin params.grid.cellSizeM)) (indexEps F)

/-- `forward_range_m / cell_size_m + _INDEX_EPS`. -/
def forwardExtent : PyFloat α :=
  F.add (F.div (.fin params.grid.forwardRangeM) (.fin params.grid.cellSizeM)) (indexEps F)

/-- `corridor_half_width_m / cell_size_m`. -/
def corridorRatio : PyFloat α :=
  F.div (.fin params.grid.corridorHalfWidthM) (.fin params.grid.cellSizeM)

/-- `-ratio - 0.5 - _INDEX_EPS`. -/
def corridorLow : PyFloat α :=
  F.sub (F.sub (corridorRatio params).neg (.fin (1 / 2))) (indexEps F)

/-- `ratio - 0.5 + _INDEX_EPS`. -/
def corridorHigh : PyFloat α :=
  F.add (F.sub (corridorRatio params) (.fin (1 / 2))) (indexEps F)

/-- `z - plane.height_at(x, y)`. -/
def residual (F : FloatFormat α) (plane : GroundPlane (PyFloat α)) (p : Point3 (PyFloat α)) :
    PyFloat α :=
  F.sub p.z (F.add (F.add (F.mul plane.a p.x) (F.mul plane.b p.y)) plane.c)

/-- `min(xs)` of values that there are. -/
def minOf : List (PyFloat α) → PyFloat α
  | [] => .fin 0
  | x :: xs => xs.foldl PyFloat.pyMin x

/-- The points of a cell inside the floor band. -/
def floorPoints (residuals : List (PyFloat α)) : ℕ :=
  residuals.countP fun r => r.abs ≤ .fin params.groundFit.planeToleranceM

/-- The points of a cell deep enough to be drop evidence. -/
def dropPoints (residuals : List (PyFloat α)) : ℕ :=
  residuals.countP fun r => r ≤ .fin (-params.grid.dropThresholdM)

/-- The classification rule, in its order: too little evidence, any drop, enough floor. -/
def cellState (residuals : List (PyFloat α)) : TerrainState :=
  if residuals.length < params.grid.minPointsPerCell then .unknown
  else if 0 < dropPoints params residuals then .dropDetected
  else if params.grid.minPointsPerCell ≤ floorPoints params residuals then .floorConfirmed
  else .unknown

/-- One classified cell.  A cell that exists has a point, so the minimum is over something. -/
def observeCell (key : ℤ × ℤ) (residuals : List (PyFloat α)) : CellObservation (PyFloat α) where
  ix := key.1
  iy := key.2
  state := cellState params residuals
  pointCount := residuals.length
  floorPointCount := floorPoints params residuals
  dropPointCount := dropPoints params residuals
  minResidualM := minOf residuals

variable [FloorRing α]

/-- `corridor_lateral_indices`. -/
def corridorLateralIndices : Except PyErr (List ℤ) :=
  (pyCeil (corridorLow params)).bind fun low =>
    (pyFloor (corridorHigh params)).map fun high => pyRange low (high + 1)

/-- The cell a point falls into, unless it lies behind the datum or beyond the forward range. -/
def cellOf (forwardCells : ℤ) (p : Point3 (PyFloat α)) : Except PyErr (Option (ℤ × ℤ)) :=
  (pyFloor (forwardCoordinate params p)).bind fun ix =>
    if ix < 0 ∨ forwardCells ≤ ix then .ok none
    else (pyFloor (lateralCoordinate params p)).map fun iy => some (ix, iy)

/-- The body of the first loop of `classify_cells`. -/
def binPoint (plane : GroundPlane (PyFloat α)) (forwardCells : ℤ)
    (buckets : Dict (ℤ × ℤ) (List (PyFloat α))) (p : Point3 (PyFloat α)) :
    Except PyErr (Dict (ℤ × ℤ) (List (PyFloat α))) :=
  (cellOf params forwardCells p).bind fun
    | none => .ok buckets
    | some key => .ok (buckets.append key (residual F plane p))

/-- `classify_cells`. -/
def classifyCells (points : List (Point3 (PyFloat α))) (plane : GroundPlane (PyFloat α)) :
    Except PyErr (TerrainGrid (PyFloat α)) :=
  (pyFloor (forwardExtent params)).bind fun forwardCells =>
    (points.foldlM (binPoint params plane forwardCells) .empty).bind fun buckets =>
      (corridorLateralIndices params).bind fun corridor =>
        .ok
          { cells := buckets.mapValues (observeCell params)
            forwardCellCount := forwardCells
            corridorIndices := corridor
            cellSizeM := .fin params.grid.cellSizeM }

end Classify

/-! ## Coverage -/

section Coverage

variable (M : AngleMath α) (grid : TerrainGrid (PyFloat α))

/-- `confirmed_distance_m`: nothing is confirmed while the quality is not established. -/
def confirmedDistance (validFraction : PyFloat α) : Except PyErr (Option (PyFloat α)) :=
  if .fin params.grid.minValidFraction ≤ validFraction ∧ 0 < confirmedCells grid then
    (intTimes F (confirmedCells grid) grid.cellSizeM).map some
  else .ok none

/-- `min(xs)`, which raises when there is nothing. -/
def pyMinimum : List (PyFloat α) → Except PyErr (PyFloat α)
  | [] => .error .valueError
  | x :: xs => .ok (xs.foldl PyFloat.pyMin x)

/-- The lateral indices of the drop cells of a row, within the corridor. -/
def dropIndices (ix : ℤ) : List ℤ :=
  grid.corridorIndices.filter fun iy => grid.stateAt ix iy = .dropDetected

/-- `grid.cells[(ix, iy)].min_residual_m`. -/
def minResidualAt (ix iy : ℤ) : Except PyErr (PyFloat α) :=
  match grid.cells.get? (ix, iy) with
  | some cell => .ok cell.minResidualM
  | none => .error .keyError

/-- The most negative residual of the drop cells of a row. -/
def stepHeight (ix : ℤ) : Except PyErr (PyFloat α) :=
  ((dropIndices grid ix).mapM (minResidualAt grid ix)).bind pyMinimum

/-- The nearest drop and its step height. -/
def nearestDrop (F : FloatFormat α) (grid : TerrainGrid (PyFloat α)) :
    Except PyErr (Option (PyFloat α × PyFloat α)) :=
  match firstDropRow grid with
  | none => .ok none
  | some ix =>
    (intTimes F ix grid.cellSizeM).bind fun distance =>
      (stepHeight grid ix).map fun step => some (distance, step)

/-- The state of the payload. -/
def coverageState (nearestDrop confirmed : Option (PyFloat α)) : TerrainState :=
  if nearestDrop.isSome then .dropDetected
  else if ∃ d ∈ confirmed, .fin 0 < d then .floorConfirmed
  else .unknown

/-- `inlier_fraction`. -/
def inlierFraction (F : FloatFormat α) (ground : GroundPlane (PyFloat α)) : PyFloat α :=
  if ground.pointCount = 0 then .fin 0 else F.round (ground.inlierCount / ground.pointCount)

/-- The payload of `terrain_coverage`, before its validators run. -/
def coveragePayload (F : FloatFormat α) (M : AngleMath α) (ground : GroundPlane (PyFloat α))
    (args : CoverageArgs α) (confirmed : Option (PyFloat α))
    (drop : Option (PyFloat α × PyFloat α)) : TerrainCoverage α where
  sourceStampS := args.sourceStampS
  reference := args.reference
  state := coverageState (drop.map Prod.fst) confirmed
  confirmedDistanceM := confirmed
  nearestDropDistanceM := drop.map Prod.fst
  stepHeightM := drop.map Prod.snd
  slope := none
  roughnessM := none
  estimateErrorM := none
  quality :=
    { validFraction := args.validFraction
      frameDigest := args.frameDigest
      deviceFrameSeq := args.deviceFrameSeq
      processingLatencyS := args.processingLatencyS
      groundPlaneTiltRad := some (M.atan (M.hypot ground.a ground.b))
      groundPlaneOffsetM := some ground.c
      groundInlierFraction := some (inlierFraction F ground)
      groundFromPrior := some ground.usedPrior
      groundRejectedCandidates := some ground.rejectedCandidates }

/-- `terrain_coverage`. -/
def terrainCoverage (ground : GroundPlane (PyFloat α)) (args : CoverageArgs α) :
    Except PyErr (Subtype (TerrainCoverage.Valid (α := α))) :=
  (confirmedDistance params grid args.validFraction).bind fun confirmed =>
    (nearestDrop F grid).bind fun drop =>
      checked TerrainCoverage.Valid (coveragePayload F M ground args confirmed drop)

end Coverage

/-! ## The virtual scan -/

section Cliff

/-- `CliffScan`, without the parameters it copies. -/
structure FrameScan (α : Type*) where
  ranges : List (PyFloat α)
  sourceStampS : PyFloat α
  dropCellCount : ℕ
  omittedCellCount : ℕ

variable (F : FloatFormat α) (M : AngleMath α) (scan : CliffScanParams α) (cellSize : PyFloat α)

/-- `angle_increment_rad`. -/
def angleIncrement : Except PyErr (PyFloat α) :=
  ((PyVal.int scan.rayCount : PyVal α).toFloat F).bind fun n =>
    pyDiv F (F.sub (.fin scan.angleMaxRad) (.fin scan.angleMinRad)) n

/-- `(n + 0.5) * cell_size`: the centre of a cell along one axis. -/
def centre (n : ℤ) : Except PyErr (PyFloat α) :=
  ((PyVal.int n : PyVal α).toFloat F).map fun n => F.mul (F.add n (.fin (1 / 2))) cellSize

variable [FloorRing α]

/-- The loop body of `cliff_ranges`: a drop cell lowers its ray, or is counted as omitted. -/
def projectCell (increment : PyFloat α) (acc : FrameScan α) (cell : CellObservation (PyFloat α)) :
    Except PyErr (FrameScan α) :=
  if cell.state ≠ .dropDetected then .ok acc
  else
    (centre F cellSize cell.ix).bind fun x =>
      (centre F cellSize cell.iy).bind fun y =>
        (intTimes F cell.ix cellSize).bind fun near =>
          let distance := M.hypot near y
          (pyDiv F (F.sub (M.atan2 y x) (.fin scan.angleMinRad)) increment).bind fun rays =>
            (pyFloor (F.add rays (indexEps F))).map fun index : ℤ =>
              if index < 0 ∨ scan.rayCount ≤ index ∨ distance < .fin scan.rangeMinM ∨
                  .fin scan.rangeMaxM < distance then
                { acc with
                  dropCellCount := acc.dropCellCount + 1
                  omittedCellCount := acc.omittedCellCount + 1 }
              else
                { acc with
                  ranges := acc.ranges.modify index.toNat fun r =>
                    if distance < r then distance else r
                  dropCellCount := acc.dropCellCount + 1 }

/-- `cliff_ranges`. -/
def cliffRanges (grid : TerrainGrid (PyFloat α)) (sourceStampS : PyFloat α) :
    Except PyErr (FrameScan α) :=
  (angleIncrement F scan).bind fun increment =>
    (grid.cells.entries.map Prod.snd).foldlM (projectCell F M scan grid.cellSizeM increment)
      { ranges := List.replicate scan.rayCount .posInf
        sourceStampS := sourceStampS
        dropCellCount := 0
        omittedCellCount := 0 }

end Cliff

/-! ## The chain -/

section Chain

/-- What the caller passes through with a frame. -/
structure Metadata (α : Type*) where
  sourceStampS : PyFloat α
  reference : String
  deviceFrameSeq : Option ℤ
  processingLatencyS : Option (PyFloat α)

/-- The arguments of `terrain_coverage` for a frame. -/
def Metadata.args {α : Type*} (metadata : Metadata α) (validity : DepthValidity α) :
    CoverageArgs α where
  validFraction := validity.validFraction
  sourceStampS := metadata.sourceStampS
  reference := metadata.reference
  frameDigest := some validity.frameDigest
  deviceFrameSeq := metadata.deviceFrameSeq
  processingLatencyS := metadata.processingLatencyS

/-- `TerrainObservation`: everything one depth frame produced. -/
structure TerrainObservation (α : Type*) [Field α] [LinearOrder α] where
  validity : DepthValidity α
  plane : GroundPlane (PyFloat α)
  grid : TerrainGrid (PyFloat α)
  coverage : Subtype (TerrainCoverage.Valid (α := α))
  cliff : FrameScan α

variable [FloorRing α] (T : FrameText α) (M : AngleMath α) (scan : CliffScanParams α)
  (draws : (n : ℕ) → List (Draw n)) (metadata : Metadata α)

/-- `analyze_depth_frame`.  The triples that the seeded generator draws depend on the number of
points alone. -/
def analyzeDepthFrame (rows : List (List (Sample α))) : Except PyErr (TerrainObservation α) :=
  (depthValidity F T rows).bind fun validity =>
    let points := backProject F M.toMathLib validity.validPixels params.intrinsics params.mounting
    (groundEstimator F M params.groundFit points (draws points.length)).bind fun plane =>
      (classifyCells params points plane).bind fun grid =>
        (terrainCoverage params M grid plane (metadata.args validity)).bind fun coverage =>
          (cliffRanges F M scan grid metadata.sourceStampS).map fun cliff =>
            { validity := validity
              plane := plane
              grid := grid
              coverage := coverage
              cliff := cliff }

end Chain

end Frame

end Perception

end MiniatureWarehouse
