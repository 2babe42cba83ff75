import MiniatureWarehouse.Perception.FrameAnalysis
import MiniatureWarehouse.Perception.TerrainVerdict

/-!
# When a depth frame is analysed without an exception

Of every payload the analysis is meant to make something, if only an unknown corridor.  What it
cannot survive is named here.  The reader raises on an integer too large for a float and on an
object without a text; a coordinate that is not finite does not become an index; and a distance, a
step height or a bearing that is not finite is refused behind the classification.

Each stage gets its value as a function that never fails and the condition under which the stage
returns it.  `frame_analysed_iff` puts them together: the frame is read as it should be and the
analysis returns exactly when no such value arises.
-/

namespace MiniatureWarehouse

namespace Perception

namespace Frame

variable {α : Type*} [Field α] [LinearOrder α] [IsStrictOrderedRing α]

/-! ## Floors and products -/

section Floor

variable [FloorRing α]

/-- The floor of a number; of another value it is never asked. -/
def floorOf : PyFloat α → ℤ
  | .fin x => ⌊x⌋
  | _ => 0

/-- The ceiling of a number. -/
def ceilOf : PyFloat α → ℤ
  | .fin x => ⌈x⌉
  | _ => 0

omit [IsStrictOrderedRing α] in
lemma pyFloor_eq_ok {a : PyFloat α} {n : ℤ} :
    pyFloor a = .ok n ↔ a.isFinite = true ∧ n = floorOf a := by
  cases a with
  | fin x => simp [pyFloor, floorOf, eq_comm]
  | nan => simp [pyFloor]
  | posInf => simp [pyFloor]
  | negInf => simp [pyFloor]

omit [IsStrictOrderedRing α] in
lemma pyCeil_eq_ok {a : PyFloat α} {n : ℤ} :
    pyCeil a = .ok n ↔ a.isFinite = true ∧ n = ceilOf a := by
  cases a with
  | fin x => simp [pyCeil, ceilOf, eq_comm]
  | nan => simp [pyCeil]
  | posInf => simp [pyCeil]
  | negInf => simp [pyCeil]

end Floor

variable {F : FloatFormat α}

lemma toFloat_int_eq_ok {n : ℤ} {x : PyFloat α} :
    (PyVal.int n : PyVal α).toFloat F = .ok x ↔
      (F.round n).isFinite = true ∧ x = F.round n := by
  change (if (F.round (n : α)).isFinite = true then Except.ok (F.round (n : α))
    else .error PyErr.overflowError) = .ok x ↔ _
  split_ifs with h
  · simp [h, eq_comm]
  · simp [h]

lemma map_toFloat_int_eq_ok {f : PyFloat α → PyFloat α} {n : ℤ} {y : PyFloat α} :
    ((PyVal.int n : PyVal α).toFloat F).map f = .ok y ↔
      (F.round n).isFinite = true ∧ y = f (F.round n) := by
  rw [exceptMap_eq_ok]
  simp only [toFloat_int_eq_ok]
  constructor
  · rintro ⟨_, ⟨h, rfl⟩, rfl⟩
    exact ⟨h, rfl⟩
  · rintro ⟨h, rfl⟩
    exact ⟨_, ⟨h, rfl⟩, rfl⟩

lemma intTimes_eq_ok {n : ℤ} {x y : PyFloat α} :
    intTimes F n x = .ok y ↔ (F.round n).isFinite = true ∧ y = F.mul (F.round n) x :=
  map_toFloat_int_eq_ok

/-- A multiple that is finite comes from a number that is. -/
lemma isFinite_of_mul {a : PyFloat α} {x : α} (hx : 0 < x) (ha : a ≠ .nan)
    (h : (F.mul a (.fin x)).isFinite = true) : a.isFinite = true := by
  cases a with
  | fin y => rfl
  | nan => exact absurd rfl ha
  | posInf => simp [FloatFormat.mul, hx.ne', hx] at h
  | negInf => simp [FloatFormat.mul, hx.ne', hx] at h

lemma not_round_nat_mul_neg (n : ℕ) {x : α} (hx : 0 < x) :
    ¬ F.mul (F.round n) (.fin x) < .fin 0 := by
  have hround : F.round 0 ≤ F.round (n : α) := F.round_mono (Nat.cast_nonneg n)
  rw [F.round_zero] at hround
  cases hn : F.round (n : α) with
  | fin y =>
    rw [hn] at hround
    have hy : 0 ≤ y := PyFloat.fin_le_fin.mp hround
    have hmul : F.round 0 ≤ F.round (y * x) := F.round_mono (mul_nonneg hy hx.le)
    rw [F.round_zero] at hmul
    exact PyFloat.not_lt_of_le hmul
  | nan => exact absurd hn (F.round_ne_nan _)
  | posInf =>
    simp only [FloatFormat.mul, hx.ne', hx, if_false, if_true]
    exact PyFloat.not_posInf_lt
  | negInf =>
    rw [hn] at hround
    exact absurd hround PyFloat.not_fin_le_negInf

/-! ## Classification -/

section Classify

variable [FloorRing α] (params : Params F)

/-- The quotients of the parameters that become the extent of the grid are finite. -/
structure GridIndexable : Prop where
  extent : (forwardExtent params).isFinite = true
  low : (corridorLow params).isFinite = true
  high : (corridorHigh params).isFinite = true

/-- The row of a point is a row of the grid. -/
def OnGrid (p : Point3 (PyFloat α)) : Prop :=
  0 ≤ floorOf (forwardCoordinate params p) ∧
    floorOf (forwardCoordinate params p) < floorOf (forwardExtent params)

/-- The forward coordinate of a point is finite, and so is the lateral one if its row is on the
grid. -/
def PointIndexable (p : Point3 (PyFloat α)) : Prop :=
  (forwardCoordinate params p).isFinite = true ∧
    (OnGrid params p → (lateralCoordinate params p).isFinite = true)

/-- The cell of a point whose coordinates are finite. -/
def cellKey (p : Point3 (PyFloat α)) : Option (ℤ × ℤ) :=
  if floorOf (forwardCoordinate params p) < 0 ∨
      floorOf (forwardExtent params) ≤ floorOf (forwardCoordinate params p) then none
  else some (floorOf (forwardCoordinate params p), floorOf (lateralCoordinate params p))

/-- The grid of points whose coordinates are finite: the points of a cell, classified. -/
def frameGrid (points : List (Point3 (PyFloat α))) (plane : GroundPlane (PyFloat α)) :
    TerrainGrid (PyFloat α) where
  cells := (Dict.groupBy (cellKey params) (residual F plane) points).mapValues (observeCell params)
  forwardCellCount := floorOf (forwardExtent params)
  corridorIndices :=
    pyRange (ceilOf (corridorLow params)) (floorOf (corridorHigh params) + 1)
  cellSizeM := .fin params.grid.cellSizeM

variable {params}

lemma cellOf_eq_ok {p : Point3 (PyFloat α)} {key : Option (ℤ × ℤ)} :
    cellOf params (floorOf (forwardExtent params)) p = .ok key ↔
      PointIndexable params p ∧ key = cellKey params p := by
  unfold cellOf PointIndexable cellKey OnGrid
  rw [exceptBind_eq_ok]
  simp only [pyFloor_eq_ok]
  by_cases hoff : floorOf (forwardCoordinate params p) < 0 ∨
      floorOf (forwardExtent params) ≤ floorOf (forwardCoordinate params p)
  · have hon : ¬ (0 ≤ floorOf (forwardCoordinate params p) ∧
        floorOf (forwardCoordinate params p) < floorOf (forwardExtent params)) := by omega
    rw [if_pos hoff]
    constructor
    · rintro ⟨_, ⟨hfinite, rfl⟩, hkey⟩
      rw [if_pos hoff] at hkey
      exact ⟨⟨hfinite, fun h => absurd h hon⟩, (Except.ok.inj hkey).symm⟩
    · rintro ⟨⟨hfinite, -⟩, rfl⟩
      exact ⟨_, ⟨hfinite, rfl⟩, if_pos hoff⟩
  · have hon : 0 ≤ floorOf (forwardCoordinate params p) ∧
        floorOf (forwardCoordinate params p) < floorOf (forwardExtent params) := by omega
    rw [if_neg hoff]
    constructor
    · rintro ⟨_, ⟨hfinite, rfl⟩, hkey⟩
      rw [if_neg hoff] at hkey
      obtain ⟨iy, hiy, rfl⟩ := exceptMap_eq_ok.mp hkey
      obtain ⟨hlateral, rfl⟩ := pyFloor_eq_ok.mp hiy
      exact ⟨⟨hfinite, fun _ => hlateral⟩, rfl⟩
    · rintro ⟨⟨hfinite, hlateral⟩, rfl⟩
      refine ⟨_, ⟨hfinite, rfl⟩, ?_⟩
      rw [if_neg hoff]
      exact exceptMap_eq_ok.mpr ⟨_, pyFloor_eq_ok.mpr ⟨hlateral hon, rfl⟩, rfl⟩

variable {plane : GroundPlane (PyFloat α)}

lemma binPoint_eq_ok {buckets buckets' : Dict (ℤ × ℤ) (List (PyFloat α))}
    {p : Point3 (PyFloat α)} :
    binPoint params plane (floorOf (forwardExtent params)) buckets p = .ok buckets' ↔
      PointIndexable params p ∧ buckets' = (cellKey params p).elim buckets fun key =>
        buckets.append key (residual F plane p) := by
  unfold binPoint
  rw [exceptBind_eq_ok]
  simp only [cellOf_eq_ok]
  constructor
  · rintro ⟨key, ⟨hp, rfl⟩, hbuckets⟩
    refine ⟨hp, ?_⟩
    cases hkey : cellKey params p with
    | none =>
      rw [hkey] at hbuckets
      exact (Except.ok.inj hbuckets).symm
    | some key =>
      rw [hkey] at hbuckets
      exact (Except.ok.inj hbuckets).symm
  · rintro ⟨hp, rfl⟩
    refine ⟨_, ⟨hp, rfl⟩, ?_⟩
    cases hkey : cellKey params p with
    | none => rfl
    | some key => rfl

lemma foldlM_binPoint {points : List (Point3 (PyFloat α))}
    {buckets buckets' : Dict (ℤ × ℤ) (List (PyFloat α))} :
    points.foldlM (binPoint params plane (floorOf (forwardExtent params))) buckets =
        .ok buckets' ↔
      (∀ p ∈ points, PointIndexable params p) ∧
        buckets' = points.foldl (fun d p => (cellKey params p).elim d fun key =>
          d.append key (residual F plane p)) buckets := by
  induction points generalizing buckets with
  | nil =>
    rw [List.foldlM_nil, List.foldl_nil]
    simp [pure, Except.pure, eq_comm]
  | cons p points ih =>
    rw [List.foldlM_cons, List.foldl_cons, List.forall_mem_cons]
    change Except.bind _ _ = _ ↔ _
    rw [exceptBind_eq_ok]
    simp only [binPoint_eq_ok, ih]
    constructor
    · rintro ⟨_, ⟨hp, rfl⟩, hrest, rfl⟩
      exact ⟨⟨hp, hrest⟩, rfl⟩
    · rintro ⟨⟨hp, hrest⟩, rfl⟩
      exact ⟨_, ⟨hp, rfl⟩, hrest, rfl⟩

/-- The points are classified exactly when all coordinates that become indices are finite. -/
lemma classifyCells_eq_ok {points : List (Point3 (PyFloat α))} {grid : TerrainGrid (PyFloat α)} :
    classifyCells params points plane = .ok grid ↔
      (GridIndexable params ∧ ∀ p ∈ points, PointIndexable params p) ∧
        grid = frameGrid params points plane := by
  unfold classifyCells corridorLateralIndices
  simp only [exceptBind_eq_ok, exceptMap_eq_ok, pyFloor_eq_ok, pyCeil_eq_ok]
  constructor
  · rintro ⟨_, ⟨hextent, rfl⟩, buckets, hbuckets, _, ⟨_, ⟨hlow, rfl⟩, _, ⟨hhigh, rfl⟩, rfl⟩, hgrid⟩
    obtain ⟨hpoints, rfl⟩ := foldlM_binPoint.mp hbuckets
    exact ⟨⟨⟨hextent, hlow, hhigh⟩, hpoints⟩, (Except.ok.inj hgrid).symm⟩
  · rintro ⟨⟨⟨hextent, hlow, hhigh⟩, hpoints⟩, rfl⟩
    exact ⟨_, ⟨hextent, rfl⟩, _, foldlM_binPoint.mpr ⟨hpoints, rfl⟩, _,
      ⟨_, ⟨hlow, rfl⟩, _, ⟨hhigh, rfl⟩, rfl⟩, rfl⟩

/-- A cell of the grid has a point, whose coordinates it has as its indices. -/
lemma exists_point_of_cell {points : List (Point3 (PyFloat α))} {cell : CellObservation (PyFloat α)}
    (h : cell ∈ (frameGrid params points plane).cells.entries.map Prod.snd) :
    ∃ p ∈ points, OnGrid params p ∧ cell.ix = floorOf (forwardCoordinate params p) ∧
      cell.iy = floorOf (lateralCoordinate params p) := by
  obtain ⟨⟨key, cell'⟩, hentry, rfl⟩ := List.mem_map.mp h
  have hget := (Dict.mem_entries_iff _).mp hentry
  change ((Dict.groupBy (cellKey params) (residual F plane) points).mapValues
    (observeCell params)).get? key = some cell' at hget
  rw [Dict.get?_mapValues, Dict.get?_groupBy] at hget
  split_ifs at hget with hempty
  · cases hget
  · obtain ⟨p, hp⟩ := List.exists_mem_of_ne_nil _ hempty
    obtain ⟨hmem, hkey⟩ := List.mem_filter.mp hp
    have hkey : cellKey params p = some key := of_decide_eq_true hkey
    obtain rfl := Option.some.inj hget
    unfold cellKey at hkey
    split_ifs at hkey with hoff
    obtain rfl := Option.some.inj hkey
    exact ⟨p, hmem, ⟨by omega, by omega⟩, rfl, rfl⟩

end Classify

/-! ## Coverage -/

section Coverage

variable {M : AngleMath α} {params : Params F} {grid : TerrainGrid (PyFloat α)}

/-- The most negative residuals of the drop cells of a row, within the corridor. -/
def dropResiduals (grid : TerrainGrid (PyFloat α)) (ix : ℤ) : List (PyFloat α) :=
  (dropIndices grid ix).filterMap fun iy => (grid.cells.get? (ix, iy)).map (·.minResidualM)

omit [Field α] [LinearOrder α] [IsStrictOrderedRing α] in
lemma exists_cell_of_drop {ix iy : ℤ} (h : grid.stateAt ix iy = .dropDetected) :
    ∃ cell, grid.cells.get? (ix, iy) = some cell := by
  unfold TerrainGrid.stateAt at h
  cases hget : grid.cells.get? (ix, iy) with
  | none => simp [hget] at h
  | some cell => exact ⟨cell, rfl⟩

omit [Field α] [IsStrictOrderedRing α] [LinearOrder α] in
lemma mapM_minResidualAt {ix : ℤ} {xs : List ℤ}
    (h : ∀ iy ∈ xs, grid.stateAt ix iy = .dropDetected) :
    xs.mapM (minResidualAt grid ix) =
      .ok (xs.filterMap fun iy => (grid.cells.get? (ix, iy)).map (·.minResidualM)) := by
  induction xs with
  | nil => rfl
  | cons iy xs ih =>
    obtain ⟨hiy, hxs⟩ := List.forall_mem_cons.mp h
    obtain ⟨cell, hcell⟩ := exists_cell_of_drop hiy
    have hat : minResidualAt grid ix iy = .ok cell.minResidualM := by
      rw [minResidualAt, hcell]
    rw [List.mapM_cons, hat, ih hxs, List.filterMap_cons, hcell]
    rfl

omit [IsStrictOrderedRing α] in
/-- A row with drop evidence has a step height: there is something to take the minimum of. -/
lemma stepHeight_eq {ix : ℤ} (h : grid.rowState ix = .dropDetected) :
    stepHeight grid ix = .ok (minOf (dropResiduals grid ix)) := by
  have hall : ∀ iy ∈ dropIndices grid ix, grid.stateAt ix iy = .dropDetected :=
    fun iy hiy => of_decide_eq_true (List.mem_filter.mp hiy).2
  obtain ⟨iy, hiy, hdrop⟩ := (rowState_eq_dropDetected_iff grid).mp h
  obtain ⟨cell, hcell⟩ := exists_cell_of_drop hdrop
  have hmem : cell.minResidualM ∈ dropResiduals grid ix := by
    refine List.mem_filterMap.mpr ⟨iy, List.mem_filter.mpr ⟨hiy, decide_eq_true hdrop⟩, ?_⟩
    rw [hcell]
    rfl
  unfold stepHeight
  rw [mapM_minResidualAt hall]
  change pyMinimum (dropResiduals grid ix) = _
  cases hresiduals : dropResiduals grid ix with
  | nil =>
    rw [hresiduals] at hmem
    exact absurd hmem List.not_mem_nil
  | cons r rs => rfl

/-- The distances and the step height that are to be reported are finite. -/
def DistancesFinite (params : Params F) (grid : TerrainGrid (PyFloat α))
    (validFraction : PyFloat α) : Prop :=
  (.fin params.grid.minValidFraction ≤ validFraction ∧ 0 < confirmedCells grid →
      (F.mul (F.round (confirmedCells grid)) grid.cellSizeM).isFinite = true) ∧
    ∀ ix ∈ firstDropRow grid, (F.mul (F.round ix) grid.cellSizeM).isFinite = true ∧
      (minOf (dropResiduals grid ix)).isFinite = true

/-- What is passed through with a frame is accepted by the contract. -/
def Metadata.Accepted (metadata : Metadata α) : Prop :=
  finiteField metadata.sourceStampS ∧ nonEmptyText metadata.reference ∧
    (∀ n ∈ metadata.deviceFrameSeq, 0 ≤ n) ∧
    optionalField nonNegative metadata.processingLatencyS

/-- What is reported about the ground is accepted by the contract. -/
def GroundAccepted (F : FloatFormat α) (M : AngleMath α) (ground : GroundPlane (PyFloat α)) :
    Prop :=
  optionalField nonNegative (some (M.atan (M.hypot ground.a ground.b))) ∧
    optionalField (fun _ => True) (some ground.c) ∧
    optionalField fractionInRange (some (inlierFraction F ground))

lemma confirmedDistance_eq_ok {validFraction : PyFloat α} {c : Option (PyFloat α)} :
    confirmedDistance params grid validFraction = .ok c ↔
      (.fin params.grid.minValidFraction ≤ validFraction ∧ 0 < confirmedCells grid →
        (F.round (confirmedCells grid)).isFinite = true) ∧
      c = if .fin params.grid.minValidFraction ≤ validFraction ∧ 0 < confirmedCells grid then
        some (F.mul (F.round (confirmedCells grid)) grid.cellSizeM) else none := by
  unfold confirmedDistance
  split_ifs with hconfirmed
  · rw [exceptMap_eq_ok]
    simp only [intTimes_eq_ok, Int.cast_natCast]
    constructor
    · rintro ⟨_, ⟨hfinite, rfl⟩, rfl⟩
      exact ⟨fun _ => hfinite, rfl⟩
    · rintro ⟨hfinite, rfl⟩
      exact ⟨_, ⟨hfinite hconfirmed, rfl⟩, rfl⟩
  · constructor
    · intro h
      exact ⟨fun h' => absurd h' hconfirmed, (Except.ok.inj h).symm⟩
    · rintro ⟨-, rfl⟩
      rfl

lemma nearestDrop_eq_ok {d : Option (PyFloat α × PyFloat α)} :
    nearestDrop F grid = .ok d ↔
      (∀ ix ∈ firstDropRow grid, (F.round ix).isFinite = true) ∧
      d = (firstDropRow grid).map fun ix : ℕ =>
        (F.mul (F.round ix) grid.cellSizeM, minOf (dropResiduals grid ix)) := by
  unfold nearestDrop
  cases hrow : firstDropRow grid with
  | none =>
    constructor
    · intro h
      refine ⟨?_, (Except.ok.inj h).symm⟩
      intro ix hix
      cases hix
    · rintro ⟨-, rfl⟩
      rfl
  | some ix =>
    have hstep := stepHeight_eq ((firstDropRow_eq_some_iff grid).mp hrow).2.1
    have htimes : ∀ y, intTimes F ix grid.cellSizeM = .ok y ↔
        (F.round (ix : α)).isFinite = true ∧ y = F.mul (F.round ix) grid.cellSizeM := by
      intro y
      rw [intTimes_eq_ok, Int.cast_natCast]
    simp only [Option.mem_some_iff, forall_eq', Option.map_some]
    constructor
    · intro h
      obtain ⟨distance, hdistance, h⟩ := exceptBind_eq_ok.mp h
      obtain ⟨hfinite, rfl⟩ := (htimes _).mp hdistance
      obtain ⟨step, hmin, rfl⟩ := exceptMap_eq_ok.mp h
      rw [hstep] at hmin
      exact ⟨hfinite, by rw [Except.ok.inj hmin]⟩
    · rintro ⟨hfinite, rfl⟩
      refine exceptBind_eq_ok.mpr ⟨_, (htimes _).mpr ⟨hfinite, rfl⟩, ?_⟩
      exact exceptMap_eq_ok.mpr ⟨_, hstep, rfl⟩

/-- The payload passes its validators when nothing it reports is infinite, `NaN` or negative. -/
lemma valid_coveragePayload {ground : GroundPlane (PyFloat α)} {metadata : Metadata α}
    {validity : DepthValidity α} (hground : GroundAccepted F M ground)
    (hfraction : finiteField validity.validFraction ∧ fractionInRange validity.validFraction)
    (confirmed : Option (PyFloat α)) (drop : Option (PyFloat α × PyFloat α)) :
    (coveragePayload F M ground (metadata.args validity) confirmed drop).Valid ↔
      metadata.Accepted ∧ optionalField nonNegative confirmed ∧
        optionalField nonNegative (drop.map Prod.fst) ∧
        optionalField (fun _ => True) (drop.map Prod.snd) := by
  obtain ⟨htilt, hoffset, hinliers⟩ := hground
  have habsent : ∀ p : PyFloat α → Prop, optionalField p none := fun p x hx => by cases hx
  have hcount : ∀ n ∈ some (ground.rejectedCandidates : ℤ), 0 ≤ n := by
    intro n hn
    obtain rfl := Option.some.inj hn
    exact Int.natCast_nonneg _
  unfold TerrainCoverage.Valid ObservationQuality.Valid coveragePayload Metadata.args
    Metadata.Accepted
  simp only [htilt, hoffset, hinliers, habsent, hfraction, and_self, and_true, true_and]
  constructor
  · rintro ⟨⟨hseq, hlatency, -⟩, hstamp, href, hconfirmed, hdrop, hstep⟩
    exact ⟨⟨hstamp, href, hseq, hlatency⟩, hconfirmed, hdrop, hstep⟩
  · rintro ⟨⟨hstamp, href, hseq, hlatency⟩, hconfirmed, hdrop, hstep⟩
    exact ⟨⟨hseq, hlatency, hcount⟩, hstamp, href, hconfirmed, hdrop, hstep⟩

lemma exists_checked_iff {β : Type*} {p : β → Prop} [DecidablePred p] {b : β} :
    (∃ c, checked p b = .ok c) ↔ p b := by
  unfold checked
  split_ifs with h
  · exact iff_of_true ⟨_, rfl⟩ h
  · exact iff_of_false (fun ⟨_, hc⟩ => by cases hc) h

/-- The coverage is built exactly when what is passed through is legal and what is reported is
finite. -/
lemma exists_terrainCoverage_iff {cellSize : α} (hcell : grid.cellSizeM = .fin cellSize)
    (hpos : 0 < cellSize) {ground : GroundPlane (PyFloat α)} {metadata : Metadata α}
    {validity : DepthValidity α} (hground : GroundAccepted F M ground)
    (hfraction : finiteField validity.validFraction ∧ fractionInRange validity.validFraction) :
    (∃ c, terrainCoverage params M grid ground (metadata.args validity) = .ok c) ↔
      metadata.Accepted ∧ DistancesFinite params grid validity.validFraction := by
  have hfield : ∀ n : ℕ, optionalField nonNegative (some (F.mul (F.round n) grid.cellSizeM)) ↔
      (F.mul (F.round n) grid.cellSizeM).isFinite = true := by
    intro n
    rw [hcell]
    constructor
    · exact fun h => (h _ rfl).1
    · rintro h _ hx
      obtain rfl := Option.some.inj hx
      exact ⟨h, not_round_nat_mul_neg n hpos⟩
  have hround : ∀ n : ℕ, (F.mul (F.round n) grid.cellSizeM).isFinite = true →
      (F.round (n : α)).isFinite = true := by
    intro n h
    rw [hcell] at h
    exact isFinite_of_mul hpos (F.round_ne_nan _) h
  have hchecked : (∃ c, terrainCoverage params M grid ground (metadata.args validity) = .ok c) ↔
      ∃ confirmed, confirmedDistance params grid validity.validFraction = .ok confirmed ∧
        ∃ drop, nearestDrop F grid = .ok drop ∧
          (coveragePayload F M ground (metadata.args validity) confirmed drop).Valid := by
    unfold terrainCoverage
    simp only [exceptBind_eq_ok, ← exists_checked_iff]
    constructor
    · rintro ⟨c, confirmed, hconfirmed, drop, hdrop, hc⟩
      exact ⟨confirmed, hconfirmed, drop, hdrop, c, hc⟩
    · rintro ⟨confirmed, hconfirmed, drop, hdrop, c, hc⟩
      exact ⟨c, confirmed, hconfirmed, drop, hdrop, hc⟩
  rw [hchecked]
  simp only [confirmedDistance_eq_ok, nearestDrop_eq_ok, valid_coveragePayload hground hfraction]
  unfold DistancesFinite
  constructor
  · rintro ⟨_, ⟨-, rfl⟩, _, ⟨-, rfl⟩, hargs, hconfirmed, hdrop, hstep⟩
    refine ⟨hargs, fun h => ?_, fun ix hix => ?_⟩
    · rw [if_pos h] at hconfirmed
      exact (hfield _).mp hconfirmed
    · rw [Option.mem_def.mp hix] at hdrop hstep
      exact ⟨(hfield _).mp hdrop, (hstep _ rfl).1⟩
  · rintro ⟨hargs, hconfirmed, hdrop⟩
    refine ⟨_, ⟨fun h => hround _ (hconfirmed h), rfl⟩, _,
      ⟨fun ix hix => hround _ (hdrop ix hix).1, rfl⟩, hargs, ?_, ?_, ?_⟩
    · split_ifs with h
      · exact (hfield _).mpr (hconfirmed h)
      · exact fun x hx => by cases hx
    · cases hrow : firstDropRow grid with
      | none => exact fun x hx => by cases hx
      | some ix => exact (hfield ix).mpr (hdrop ix hrow).1
    · cases hrow : firstDropRow grid with
      | none => exact fun x hx => by cases hx
      | some ix =>
        rintro _ hx
        obtain rfl := Option.some.inj hx
        exact ⟨(hdrop ix hrow).2, trivial⟩

end Coverage

/-! ## The virtual scan -/

section Cliff

variable {M : AngleMath α} {scan : CliffScanParams α}

/-- The width of one ray bin. -/
def rayIncrement (F : FloatFormat α) (scan : CliffScanParams α) : PyFloat α :=
  F.div (F.sub (.fin scan.angleMaxRad) (.fin scan.angleMinRad)) (F.round scan.rayCount)

/-- The bearing of the centre of a cell, in ray bins. -/
def rayCoordinate (F : FloatFormat α) (M : AngleMath α) (scan : CliffScanParams α)
    (cellSize increment : PyFloat α) (cell : CellObservation (PyFloat α)) : PyFloat α :=
  F.add (F.div (F.sub (M.atan2 (F.mul (F.add (F.round cell.iy) (.fin (1 / 2))) cellSize)
    (F.mul (F.add (F.round cell.ix) (.fin (1 / 2))) cellSize)) (.fin scan.angleMinRad)) increment)
    (indexEps F)

/-- The scan has rays, and every drop cell a bearing in them that is finite. -/
def RaysFinite (F : FloatFormat α) (M : AngleMath α) (scan : CliffScanParams α)
    (grid : TerrainGrid (PyFloat α)) : Prop :=
  (F.round scan.rayCount).isFinite = true ∧
    ∀ cell ∈ grid.cells.entries.map Prod.snd, cell.state = .dropDetected →
      rayIncrement F scan ≠ .fin 0 ∧
        (rayCoordinate F M scan grid.cellSizeM (rayIncrement F scan) cell).isFinite = true

lemma pyDiv_eq_ok {a b c : PyFloat α} : pyDiv F a b = .ok c ↔ b ≠ .fin 0 ∧ c = F.div a b := by
  by_cases h : b = .fin 0
  · simp [pyDiv, h]
  · rw [pyDiv_of_ne h]
    simp [h, eq_comm]

lemma angleIncrement_eq_ok (hone : F.round 1 = .fin 1) {increment : PyFloat α} :
    angleIncrement F scan = .ok increment ↔
      (F.round scan.rayCount).isFinite = true ∧ increment = rayIncrement F scan := by
  have hne : F.round (scan.rayCount : α) ≠ .fin 0 := by
    have hle : (1 : α) ≤ scan.rayCount := by exact_mod_cast scan.ray_pos
    have hround : .fin 1 ≤ F.round (scan.rayCount : α) := hone ▸ F.round_mono hle
    intro h
    rw [h] at hround
    exact absurd (PyFloat.fin_le_fin.mp hround) (not_le.mpr one_pos)
  unfold angleIncrement rayIncrement
  rw [exceptBind_eq_ok]
  simp only [toFloat_int_eq_ok, Int.cast_natCast, pyDiv_eq_ok]
  constructor
  · rintro ⟨_, ⟨hfinite, rfl⟩, -, rfl⟩
    exact ⟨hfinite, rfl⟩
  · rintro ⟨hfinite, rfl⟩
    exact ⟨_, ⟨hfinite, rfl⟩, hne, rfl⟩

lemma centre_eq_ok {cellSize c : PyFloat α} {n : ℤ} :
    centre F cellSize n = .ok c ↔
      (F.round n).isFinite = true ∧ c = F.mul (F.add (F.round n) (.fin (1 / 2))) cellSize :=
  map_toFloat_int_eq_ok

variable [FloorRing α]

/-- A cell is projected, or counted as omitted, whatever the scan holds so far. -/
lemma exists_projectCell_iff {cellSize increment : PyFloat α} (acc : FrameScan α)
    (cell : CellObservation (PyFloat α)) :
    (∃ acc', projectCell F M scan cellSize increment acc cell = .ok acc') ↔
      (cell.state = .dropDetected →
        ((F.round cell.ix).isFinite = true ∧ (F.round cell.iy).isFinite = true) ∧
          increment ≠ .fin 0 ∧
            (rayCoordinate F M scan cellSize increment cell).isFinite = true) := by
  unfold projectCell
  by_cases hdrop : cell.state = .dropDetected
  · rw [if_neg (not_not.mpr hdrop)]
    simp only [hdrop, forall_const, exceptBind_eq_ok, exceptMap_eq_ok, centre_eq_ok,
      intTimes_eq_ok, pyDiv_eq_ok,
      pyFloor_eq_ok]
    constructor
    · rintro ⟨_, _, ⟨hix, rfl⟩, _, ⟨hiy, rfl⟩, _, -, _, ⟨hne, rfl⟩, _, ⟨hfinite, -⟩, -⟩
      exact ⟨⟨hix, hiy⟩, hne, hfinite⟩
    · rintro ⟨⟨hix, hiy⟩, hne, hfinite⟩
      exact ⟨_, _, ⟨hix, rfl⟩, _, ⟨hiy, rfl⟩, _, ⟨hix, rfl⟩, _, ⟨hne, rfl⟩, _, ⟨hfinite, rfl⟩, rfl⟩
  · rw [if_pos hdrop]
    exact iff_of_true ⟨acc, rfl⟩ fun h => absurd h hdrop

/-- The scan is built exactly when the bearings of the drop cells are finite. -/
lemma exists_cliffRanges_iff (hone : F.round 1 = .fin 1) {grid : TerrainGrid (PyFloat α)}
    {stamp : PyFloat α}
    (hindices : ∀ cell ∈ grid.cells.entries.map Prod.snd,
      (F.round (cell.ix : α)).isFinite = true ∧ (F.round (cell.iy : α)).isFinite = true) :
    (∃ cliff, cliffRanges F M scan grid stamp = .ok cliff) ↔ RaysFinite F M scan grid := by
  unfold cliffRanges RaysFinite
  simp only [exceptBind_eq_ok, angleIncrement_eq_ok hone]
  constructor
  · rintro ⟨cliff, _, ⟨hcount, rfl⟩, hcliff⟩
    refine ⟨hcount, fun cell hcell hdrop => ?_⟩
    have hall := (exists_foldlM_eq_ok exists_projectCell_iff).mp ⟨cliff, hcliff⟩
    exact (hall cell hcell hdrop).2
  · rintro ⟨hcount, hcells⟩
    obtain ⟨cliff, hcliff⟩ := (exists_foldlM_eq_ok exists_projectCell_iff).mpr
      fun cell hcell hdrop => ⟨hindices cell hcell, hcells cell hcell hdrop⟩
    exact ⟨cliff, _, ⟨hcount, rfl⟩, hcliff⟩

end Cliff

/-! ## The chain -/

/-- What the analysis relies on of the numbers, for frames of `n` samples: what the fit relies on,
and that the integer part of a float is a float. -/
structure FrameNumbers (F : FloatFormat α) [FloorRing α] (n : ℕ) : Prop extends FitNumbers F n where
  floor_finite : ∀ {x : α}, F.round x = .fin x → (F.round (⌊x⌋ : α)).isFinite = true

/-- The frame is read as it should be: the valid pixels are the finite positive numbers of the
payload with their coordinates, in its order, and the fraction is their share. -/
structure ReadsExactly (F : FloatFormat α) (rows : List (List (Sample α)))
    (validity : DepthValidity α) : Prop where
  mem_iff : ∀ u v z, (u, v, z) ∈ validity.validPixels ↔ ∃ row s x, rows[v]? = some row ∧
    row[u]? = some s ∧ s.value F = some (.fin x) ∧ 0 < x ∧ z = .fin x
  ordered : validity.validPixels.Pairwise PayloadOrder
  count : validity.validCount = validity.validPixels.length
  total : validity.totalPixels = (rows.map List.length).sum
  fraction : validity.validFraction = if validity.totalPixels = 0 then .fin 0
    else F.round (validity.validCount / validity.totalPixels)
  in_range : .fin 0 ≤ validity.validFraction ∧ validity.validFraction ≤ .fin 1

section Chain

/-- There are no more usable pixels than samples. -/
lemma length_pixels_le {β : Type*} (rows : List (List (Option β))) :
    (pixels rows).length ≤ (rows.map List.length).sum := by
  unfold pixels
  rw [List.length_flatMap]
  have hrows : rows.map List.length = rows.zipIdx.map fun p => p.1.length := by
    have h : rows.zipIdx.map (List.length ∘ Prod.fst) = rows.map List.length := by
      rw [← List.map_map, List.zipIdx_map_fst]
    exact h.symm
  rw [hrows]
  refine List.sum_le_sum fun p _ => ?_
  refine (List.length_filterMap_le _ _).trans_eq ?_
  rw [List.length_zipIdx]

lemma map_length_depths (rows : List (List (Sample α))) :
    (rows.map (List.map (Sample.depth F))).map List.length = rows.map List.length := by
  simp [List.map_map, Function.comp_def]

/-- A share of what there is is a fraction. -/
lemma fractionInRange_round (hone : F.round 1 = .fin 1) {k n : ℕ} (hn : n ≠ 0) (hle : k ≤ n) :
    fractionInRange (F.round ((k : α) / n)) := by
  have hpos : (0 : α) < n := by exact_mod_cast Nat.pos_of_ne_zero hn
  have hk : (k : α) ≤ n := by exact_mod_cast hle
  have hlow : F.round 0 ≤ F.round ((k : α) / n) :=
    F.round_mono (div_nonneg (Nat.cast_nonneg k) hpos.le)
  have hhigh : F.round ((k : α) / n) ≤ F.round 1 := F.round_mono ((div_le_one hpos).mpr hk)
  rw [F.round_zero] at hlow
  rw [hone] at hhigh
  exact ⟨hlow, hhigh⟩

omit [IsStrictOrderedRing α] in
lemma finiteField_of_fractionInRange {a : PyFloat α} (h : fractionInRange a) : finiteField a := by
  obtain ⟨hlow, hhigh⟩ := h
  cases a with
  | fin x => rfl
  | nan => exact absurd hlow PyFloat.not_le_nan
  | posInf => exact absurd hhigh PyFloat.not_posInf_le_fin
  | negInf => exact absurd hlow PyFloat.not_fin_le_negInf

variable {T : FrameText α}

lemma readsExactly_of_depthValidity (hone : F.round 1 = .fin 1) {rows : List (List (Sample α))}
    {validity : DepthValidity α} (h : depthValidity F T rows = .ok validity) :
    ReadsExactly F rows validity := by
  obtain ⟨hpixels, htotal, hcount, hfraction⟩ := depthValidity_spec h
  have hle : validity.validCount ≤ validity.totalPixels := by
    rw [hcount, htotal, hpixels, ← map_length_depths (F := F)]
    exact length_pixels_le _
  refine ⟨?_, ?_, hcount, htotal, hfraction, ?_⟩
  · intro u v z
    rw [hpixels, mem_pixels]
    constructor
    · rintro ⟨depths, hdepths, hz⟩
      rw [List.getElem?_map] at hdepths
      obtain ⟨row, hrow, rfl⟩ := Option.map_eq_some_iff.mp hdepths
      rw [List.getElem?_map] at hz
      obtain ⟨s, hs, hdepth⟩ := Option.map_eq_some_iff.mp hz
      obtain ⟨x, hvalue, hx, rfl⟩ := depth_eq_some_iff.mp hdepth
      exact ⟨row, s, x, hrow, hs, hvalue, hx, rfl⟩
    · rintro ⟨row, s, x, hrow, hs, hvalue, hx, rfl⟩
      refine ⟨row.map (Sample.depth F), ?_, ?_⟩
      · rw [List.getElem?_map, hrow]
        rfl
      · rw [List.getElem?_map, hs, Option.map_some, depth_eq_some_iff.mpr ⟨x, hvalue, hx, rfl⟩]
  · rw [hpixels]
    exact pairwise_pixels _
  · rw [hfraction]
    split_ifs with hzero
    · exact ⟨PyFloat.fin_le_fin.mpr le_rfl, PyFloat.fin_le_fin.mpr zero_le_one⟩
    · exact fractionInRange_round hone hzero hle

variable (params : Params F) (M : AngleMath α)

/-- The points of a frame. -/
def framePoints (rows : List (List (Sample α))) : List (Point3 (PyFloat α)) :=
  backProject F M.toMathLib (pixels (rows.map (List.map (Sample.depth F)))) params.intrinsics
    params.mounting

/-- The share of the samples of a frame that are usable. -/
def frameFraction (F : FloatFormat α) (rows : List (List (Sample α))) : PyFloat α :=
  if (rows.map List.length).sum = 0 then .fin 0
  else F.round ((pixels (rows.map (List.map (Sample.depth F)))).length /
    (rows.map List.length).sum)

/-- What the fit returns is accepted by the contract. -/
lemma groundAccepted_of_fitted {points : List (Point3 (PyFloat α))}
    {draws : List (Draw points.length)} {s : FitState α} (hone : F.round 1 = .fin 1)
    (hs : Fitted F M params.groundFit points draws s) :
    GroundAccepted F M (s.ground points.length) := by
  obtain ⟨⟨ha, hb, hc⟩, -, -⟩ := cone_of_withinPriorCone hs.cone
  have hcount : s.bestScore.count ≤ points.length := by
    rw [hs.scored]
    exact List.countP_le_length
  have hfraction : fractionInRange (inlierFraction F (s.ground points.length)) := by
    unfold inlierFraction
    split_ifs with hzero
    · exact ⟨PyFloat.fin_le_fin.mpr le_rfl, PyFloat.fin_le_fin.mpr zero_le_one⟩
    · exact fractionInRange_round hone hzero hcount
  refine ⟨?_, ?_, ?_⟩
  · rintro _ hx
    obtain rfl := Option.some.inj hx
    exact ⟨M.atan_isFinite (M.hypot_ne_nan (PyFloat.ne_nan_of_isFinite ha)
        (PyFloat.ne_nan_of_isFinite hb)),
      M.atan_nonneg (M.hypot_nonneg _ _)⟩
  · rintro _ hx
    obtain rfl := Option.some.inj hx
    exact ⟨hc, trivial⟩
  · rintro _ hx
    obtain rfl := Option.some.inj hx
    exact ⟨finiteField_of_fractionInRange hfraction, hfraction⟩

variable [FloorRing α] {params M}

/-- The indices of the cells convert to floats. -/
lemma isFinite_index_of_cell {n : ℕ} (hF : FrameNumbers F n) {points : List (Point3 (PyFloat α))}
    {plane : GroundPlane (PyFloat α)} (hpoints : ∀ p ∈ points, PointIndexable params p)
    {cell : CellObservation (PyFloat α)}
    (h : cell ∈ (frameGrid params points plane).cells.entries.map Prod.snd) :
    (F.round (cell.ix : α)).isFinite = true ∧ (F.round (cell.iy : α)).isFinite = true := by
  have hfloor : ∀ {a : PyFloat α}, F.Rep a → a.isFinite = true →
      (F.round (floorOf a : α)).isFinite = true := by
    intro a hrep hfinite
    obtain ⟨x, rfl⟩ := PyFloat.isFinite_iff.mp hfinite
    exact hF.floor_finite (hrep x rfl)
  obtain ⟨p, hp, hon, hix, hiy⟩ := exists_point_of_cell h
  obtain ⟨hforward, hlateral⟩ := hpoints p hp
  rw [hix, hiy]
  exact ⟨hfloor (F.rep_add _ _) hforward, hfloor (F.rep_add _ _) (hlateral hon)⟩

variable (params T M) (scan : CliffScanParams α) (draws : (n : ℕ) → List (Draw n))
  (metadata : Metadata α)

/-- A frame that can be analysed: its samples are readable, the caller's data is legal, the
coordinates that become indices are finite, and so are the distances, the step height and the
bearings that the grid over the fitted plane gives. -/
structure Analysable (rows : List (List (Sample α))) : Prop where
  readable : ∀ row ∈ rows, ∀ s ∈ row, s.Readable F
  accepted : metadata.Accepted
  grid : GridIndexable params
  points : ∀ p ∈ framePoints params M rows, PointIndexable params p
  distances : ∀ plane, groundEstimator F M params.groundFit (framePoints params M rows)
      (draws (framePoints params M rows).length) = .ok plane →
    DistancesFinite params (frameGrid params (framePoints params M rows) plane)
      (frameFraction F rows)
  rays : ∀ plane, groundEstimator F M params.groundFit (framePoints params M rows)
      (draws (framePoints params M rows).length) = .ok plane →
    RaysFinite F M scan (frameGrid params (framePoints params M rows) plane)

variable {T params M scan draws metadata}

omit [FloorRing α] in
/-- There are no more points than samples. -/
lemma length_framePoints_le (rows : List (List (Sample α))) :
    (framePoints params M rows).length ≤ (rows.map List.length).sum := by
  have hpixels := length_pixels_le (rows.map (List.map (Sample.depth F)))
  rw [map_length_depths] at hpixels
  simpa [framePoints, backProject] using hpixels

omit [FloorRing α] in
/-- What the chain goes on with when a frame is read. -/
lemma of_depthValidity (params : Params F) (M : AngleMath α) {rows : List (List (Sample α))}
    {validity : DepthValidity α}
    (h : depthValidity F T rows = .ok validity) :
    backProject F M.toMathLib validity.validPixels params.intrinsics params.mounting =
        framePoints params M rows ∧
      validity.validFraction = frameFraction F rows := by
  obtain ⟨hpixels, htotal, hcount, hfraction⟩ := depthValidity_spec h
  rw [hfraction, htotal, hcount, hpixels]
  exact ⟨rfl, rfl⟩

/-- What is left of the chain once a frame is read and its plane is fitted. -/
lemma exists_analysis_iff {rows : List (List (Sample α))}
    (hF : FrameNumbers F (rows.map List.length).sum) {validity : DepthValidity α}
    (hvalidity : depthValidity F T rows = .ok validity) {plane : GroundPlane (PyFloat α)}
    (hplane : groundEstimator F M params.groundFit (framePoints params M rows)
      (draws (framePoints params M rows).length) = .ok plane) :
    (∃ observation, analyzeDepthFrame params T M scan draws metadata rows = .ok observation) ↔
      (GridIndexable params ∧ ∀ p ∈ framePoints params M rows, PointIndexable params p) ∧
        (metadata.Accepted ∧ DistancesFinite params
          (frameGrid params (framePoints params M rows) plane) (frameFraction F rows)) ∧
        RaysFinite F M scan (frameGrid params (framePoints params M rows) plane) := by
  obtain ⟨hback, hsame⟩ := of_depthValidity params M hvalidity
  have hrange := (readsExactly_of_depthValidity hF.round_one hvalidity).in_range
  have haccepted : GroundAccepted F M plane := by
    obtain ⟨s, hs, hfitted⟩ := exists_groundEstimator M params.groundFit
      (hF.toFitNumbers.mono (length_framePoints_le rows)) (draws (framePoints params M rows).length)
    obtain rfl := Except.ok.inj (hs.symm.trans hplane)
    exact groundAccepted_of_fitted params M hF.round_one hfitted
  set grid := frameGrid params (framePoints params M rows) plane with hgrid
  have hcoverage : (∃ c, terrainCoverage params M grid plane (metadata.args validity) = .ok c) ↔
      metadata.Accepted ∧ DistancesFinite params grid (frameFraction F rows) := by
    rw [← hsame]
    exact exists_terrainCoverage_iff rfl params.grid.cell_pos haccepted
      ⟨finiteField_of_fractionInRange hrange, hrange⟩
  rw [← hcoverage]
  constructor
  · rintro ⟨observation, hobservation⟩
    obtain ⟨validity', hvalidity', hrest⟩ := exceptBind_eq_ok.mp hobservation
    obtain rfl := Except.ok.inj (hvalidity.symm.trans hvalidity')
    dsimp only at hrest
    rw [hback] at hrest
    obtain ⟨plane', hplane', hrest⟩ := exceptBind_eq_ok.mp hrest
    obtain rfl := Except.ok.inj (hplane.symm.trans hplane')
    obtain ⟨grid', hgrid', hrest⟩ := exceptBind_eq_ok.mp hrest
    obtain ⟨hindexable, rfl⟩ := classifyCells_eq_ok.mp hgrid'
    obtain ⟨coverage, hc, hrest⟩ := exceptBind_eq_ok.mp hrest
    obtain ⟨cliff, hcliff, -⟩ := exceptMap_eq_ok.mp hrest
    exact ⟨hindexable, ⟨coverage, hc⟩, (exists_cliffRanges_iff hF.round_one
      fun cell hcell => isFinite_index_of_cell hF hindexable.2 hcell).mp ⟨cliff, hcliff⟩⟩
  · rintro ⟨hindexable, ⟨coverage, hc⟩, hrays⟩
    have hscan : ∃ cliff, cliffRanges F M scan grid metadata.sourceStampS = .ok cliff :=
      (exists_cliffRanges_iff hF.round_one
        fun cell hcell => isFinite_index_of_cell hF hindexable.2 hcell).mpr hrays
    obtain ⟨cliff, hcliff⟩ := hscan
    have hclassify := classifyCells_eq_ok.mpr ⟨hindexable, hgrid⟩
    refine ⟨⟨validity, plane, grid, coverage, cliff⟩, ?_⟩
    rw [analyzeDepthFrame, exceptBind_eq_ok]
    refine ⟨validity, hvalidity, ?_⟩
    dsimp only
    rw [hback]
    exact exceptBind_eq_ok.mpr ⟨plane, hplane, exceptBind_eq_ok.mpr ⟨grid, hclassify,
      exceptBind_eq_ok.mpr ⟨coverage, hc, exceptMap_eq_ok.mpr ⟨cliff, hcliff, rfl⟩⟩⟩⟩

end Chain

/-! ## An example -/

lemma metre_focal_pos : (PyFloat.fin 1 : PyFloat ℚ).isFinite = true ∧ .fin 0 < PyFloat.fin (1 : ℚ) :=
  ⟨rfl, rat_one_pos⟩

lemma metre_centre_nonneg :
    (PyFloat.fin 0 : PyFloat ℚ).isFinite = true ∧ .fin 0 ≤ PyFloat.fin (0 : ℚ) :=
  ⟨rfl, rat_zero_le_zero⟩

lemma metre_corridor_holds_bin :
    ¬ (FloatFormat.exact ℚ).add (.fin (1 / 2)) (indexEps (.exact ℚ)) <
      (FloatFormat.exact ℚ).div (.fin 1) (.fin 2) := by
  decide +kernel

lemma metre_range_pos : (0 : ℚ) < 2 := two_pos

lemma metre_range_holds_cell :
    ¬ (FloatFormat.exact ℚ).add (.fin 2) (indexEps (.exact ℚ)) < .fin 1 := by
  decide +kernel

lemma metre_bands_disjoint : narrowCone.planeToleranceM < 1 / 2 := by
  decide +kernel

lemma two_pow_1024_nonneg : (0 : ℚ) ≤ 2 ^ 1024 := pow_nonneg zero_le_two 1024

/-- A camera above the datum that looks down, cells of a metre, and a floor band of a twentieth. -/
def metreParams : Params (.exact ℚ) where
  intrinsics :=
    { fx := .fin 1
      fy := .fin 1
      cx := .fin 0
      cy := .fin 0
      fx_pos := metre_focal_pos
      fy_pos := metre_focal_pos
      cx_nonneg := metre_centre_nonneg
      cy_nonneg := metre_centre_nonneg }
  mounting :=
    { referenceOffsetM := 0
      cameraHeightM := 1
      pitchDownRad := 1 / 2
      height_pos := rat_one_pos
      pitch_pos := rat_half_pos }
  grid :=
    { cellSizeM := 1
      corridorHalfWidthM := 1 / 2
      forwardRangeM := 2
      minPointsPerCell := 1
      dropThresholdM := 1 / 2
      minValidFraction := 1 / 2
      cell_pos := rat_one_pos
      corridor_pos := rat_half_pos
      corridor_holds_bin := metre_corridor_holds_bin
      range_pos := metre_range_pos
      range_holds_cell := metre_range_holds_cell
      points_pos := nat_one_le_one
      drop_pos := rat_half_pos
      fraction_pos := rat_half_pos
      fraction_le_one := rat_half_le_one }
  groundFit := narrowCone
  bands_disjoint := metre_bands_disjoint

/-- Two rays in front. -/
def twoRays : CliffScanParams ℚ where
  angleMinRad := -1
  angleMaxRad := 1
  rayCount := 2
  rangeMinM := 1 / 10
  rangeMaxM := 10
  angle_lt := by decide +kernel
  ray_pos := by decide
  rangeMin_pos := rat_tenth_pos
  range_lt := by decide +kernel

/-- A stamp and a reference, and nothing more. -/
def stampOnly : Metadata ℚ where
  sourceStampS := .fin 1
  reference := "base"
  deviceFrameSeq := none
  processingLatencyS := none

/-- A ragged payload with samples of every kind. -/
def raggedFrame : List (List (Sample ℚ)) :=
  [[.float (.fin 1), .float .nan, .float .posInf], [.int 2, .bool true],
    [], [.object (some "None")]]

end Frame

end Perception

end MiniatureWarehouse
