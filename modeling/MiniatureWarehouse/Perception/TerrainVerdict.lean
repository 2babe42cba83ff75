import MiniatureWarehouse.Perception.Terrain
import Mathlib.Data.List.TakeWhile

/-!
# The terrain verdict

What the coverage payload says about the points it was computed from.  Every cell of the grid is
described by the residuals of its own points, so a confirmed distance is a statement about points
and not about the loops that produced it; a drop cell anywhere in the corridor decides the state,
however the rows before it came out; and the virtual scan knows the drop cells only.
-/

namespace MiniatureWarehouse

namespace Perception

/-! ## Rows of a grid -/

section Rows

variable {α : Type*} (grid : TerrainGrid α)

lemma rowState_eq_dropDetected_iff {ix : ℤ} :
    grid.rowState ix = .dropDetected ↔
      ∃ iy ∈ grid.corridorIndices, grid.stateAt ix iy = .dropDetected := by
  unfold TerrainGrid.rowState
  simp only [List.mem_map]
  constructor
  · intro h
    by_contra hno
    rw [if_neg hno] at h
    split_ifs at h
  · intro h
    exact if_pos h

/-- A confirmed row is confirmed in every corridor cell. -/
lemma stateAt_of_rowState_eq_floorConfirmed {ix : ℤ} (h : grid.rowState ix = .floorConfirmed)
    {iy : ℤ} (hiy : iy ∈ grid.corridorIndices) : grid.stateAt ix iy = .floorConfirmed := by
  unfold TerrainGrid.rowState at h
  dsimp only at h
  split_ifs at h with hdrop hfloor
  exact hfloor.2 _ (List.mem_map_of_mem hiy)

@[simp] lemma length_rowStates : grid.rowStates.length = grid.forwardCellCount.toNat := by
  simp [TerrainGrid.rowStates, pyRange]

lemma getElem_rowStates {n : ℕ} (h : n < grid.rowStates.length) :
    grid.rowStates[n] = grid.rowState n := by
  simp [TerrainGrid.rowStates, pyRange]

/-- The rows counted from the datum are all confirmed. -/
lemma rowState_of_lt_confirmedCells {n : ℕ} (h : n < confirmedCells grid) :
    grid.rowState n = .floorConfirmed := by
  have hprefix :=
    List.takeWhile_prefix (fun s => decide (s = .floorConfirmed)) (l := grid.rowStates)
  have hget := hprefix.getElem h
  have hmem : (grid.rowStates.takeWhile (· = .floorConfirmed))[n] ∈ _ := List.getElem_mem h
  have hfloor := List.mem_takeWhile_imp hmem
  rw [hget, getElem_rowStates] at hfloor
  exact of_decide_eq_true hfloor

/-- The row found first is the nearest one with a drop cell in the corridor. -/
lemma firstDropRow_eq_some_iff {n : ℕ} :
    firstDropRow grid = some n ↔
      n < grid.forwardCellCount.toNat ∧ grid.rowState n = .dropDetected ∧
        ∀ m < n, grid.rowState m ≠ .dropDetected := by
  unfold firstDropRow
  rw [List.findIdx?_eq_some_iff_getElem]
  simp only [decide_eq_true_eq, getElem_rowStates, length_rowStates, exists_prop]

lemma firstDropRow_eq_none_iff :
    firstDropRow grid = none ↔
      ∀ n < grid.forwardCellCount.toNat, grid.rowState n ≠ .dropDetected := by
  unfold firstDropRow
  rw [List.findIdx?_eq_none_iff]
  simp only [decide_eq_false_iff_not]
  constructor
  · intro h n hn
    have hlt : n < grid.rowStates.length := by rwa [length_rowStates]
    have hrow := h _ (List.getElem_mem hlt)
    rwa [getElem_rowStates] at hrow
  · intro h s hs
    obtain ⟨n, hn, rfl⟩ := List.mem_iff_getElem.mp hs
    rw [getElem_rowStates]
    exact h n (by rwa [length_rowStates] at hn)

end Rows

/-! ## Cells of a classified grid -/

section Cells

variable {α : Type*} [Field α] [LinearOrder α] (params : TerrainParams α)

/-- A confirmed cell has enough floor points and no drop point. -/
lemma of_cellState_eq_floorConfirmed {residuals : List α}
    (h : cellState params residuals = .floorConfirmed) :
    params.grid.minPointsPerCell ≤ floorPoints params residuals ∧
      dropPoints params residuals = 0 := by
  unfold cellState at h
  split_ifs at h with hfew hdrop hfloor
  exact ⟨hfloor, by omega⟩

/-- A drop cell holds a drop point. -/
lemma of_cellState_eq_dropDetected {residuals : List α}
    (h : cellState params residuals = .dropDetected) : 0 < dropPoints params residuals := by
  unfold cellState at h
  split_ifs at h with hfew hdrop hfloor
  exact hdrop

/-- The most negative residual of a drop cell is at drop depth. -/
lemma minResidual_le_of_dropDetected {key : ℤ × ℤ} {residuals : List α}
    (h : (observeCell params key residuals).state = .dropDetected) :
    (observeCell params key residuals).minResidualM ≤ -params.grid.dropThresholdM := by
  have hdrop : 0 < dropPoints params residuals := of_cellState_eq_dropDetected params h
  obtain ⟨r, hr, hdeep⟩ := List.countP_pos_iff.mp hdrop
  obtain ⟨m, hm⟩ := Option.isSome_iff_exists.mp (List.isSome_min?_of_mem hr)
  have hleast : m ≤ r := (List.min?_eq_some_iff.mp hm).2 r hr
  have hvalue : (observeCell params key residuals).minResidualM = m := by
    simp [observeCell, hm]
  rw [hvalue]
  exact hleast.trans (of_decide_eq_true hdeep)

variable [FloorRing α] (points : List (Point3 α)) (plane : GroundPlane α)

@[simp] lemma cellSizeM_classifyCells :
    (classifyCells params points plane).cellSizeM = params.grid.cellSizeM := rfl

@[simp] lemma forwardCellCount_classifyCells :
    (classifyCells params points plane).forwardCellCount = params.grid.forwardCellCount := rfl

/-- The signed heights of the points that fall into a cell, in the order of the frame. -/
def cellResiduals (key : ℤ × ℤ) : List α :=
  (points.filter fun p => cellOf params p = some key).map plane.residual

/-- A cell of the grid is the observation of its own points; without points it is absent. -/
lemma get?_classifyCells (key : ℤ × ℤ) :
    (classifyCells params points plane).cells.get? key =
      if cellResiduals params points plane key = [] then none
      else some (observeCell params key (cellResiduals params points plane key)) := by
  unfold classifyCells cellResiduals
  rw [Dict.get?_mapValues, Dict.get?_groupBy]
  simp only [List.map_eq_nil_iff]
  split_ifs
  · rfl
  · rfl

/-- The state of a cell is the rule applied to its points, absent cells included. -/
lemma stateAt_classifyCells (ix iy : ℤ) :
    (classifyCells params points plane).stateAt ix iy =
      cellState params (cellResiduals params points plane (ix, iy)) := by
  unfold TerrainGrid.stateAt
  rw [get?_classifyCells]
  split_ifs with hempty
  · have hfew : 0 < params.grid.minPointsPerCell := params.grid.points_pos
    simp [cellState, hempty, hfew]
  · rfl

lemma cellOf_eq_some_bounds {p : Point3 α} {key : ℤ × ℤ} (h : cellOf params p = some key) :
    0 ≤ key.1 ∧ key.1 < params.grid.forwardCellCount := by
  unfold cellOf at h
  dsimp only at h
  split_ifs at h with hout
  obtain rfl := Option.some.inj h
  push Not at hout
  exact hout

/-- The indices of a cell are the rounded coordinates of its points. -/
lemma of_cellOf_eq_some {p : Point3 α} {key : ℤ × ℤ} (h : cellOf params p = some key) :
    ⌊(p.x - params.mounting.referenceOffsetM) / params.grid.cellSizeM + indexEps⌋ = key.1 ∧
      ⌊p.y / params.grid.cellSizeM + indexEps⌋ = key.2 := by
  unfold cellOf at h
  dsimp only at h
  split_ifs at h
  obtain rfl := Option.some.inj h
  exact ⟨rfl, rfl⟩

/-- Only cells of the forward range hold drop evidence. -/
lemma bounds_of_stateAt_eq_dropDetected {ix iy : ℤ}
    (h : (classifyCells params points plane).stateAt ix iy = .dropDetected) :
    0 ≤ ix ∧ ix < params.grid.forwardCellCount := by
  rw [stateAt_classifyCells] at h
  obtain ⟨r, hr, -⟩ := List.countP_pos_iff.mp (of_cellState_eq_dropDetected params h)
  obtain ⟨p, hp, -⟩ := List.mem_map.mp hr
  exact cellOf_eq_some_bounds params (of_decide_eq_true (List.mem_filter.mp hp).2)

/-- A row with a drop cell has a step height, and it is at drop depth. -/
lemma stepHeight_of_drop {ix iy : ℤ}
    (hiy : iy ∈ (classifyCells params points plane).corridorIndices)
    (hdrop : (classifyCells params points plane).stateAt ix iy = .dropDetected) :
    ∃ h, stepHeight (classifyCells params points plane) ix = some h ∧
      h ≤ -params.grid.dropThresholdM := by
  set grid := classifyCells params points plane with hgrid
  -- the residuals the minimum ranges over
  have hdepth : ∀ {jy r}, grid.stateAt ix jy = .dropDetected →
      (grid.cells.get? (ix, jy)).map (·.minResidualM) = some r →
        r ≤ -params.grid.dropThresholdM := by
    intro jy r hstate hr
    obtain ⟨cell, hcell, rfl⟩ := Option.map_eq_some_iff.mp hr
    have hcellState : cell.state = .dropDetected := by
      simpa [TerrainGrid.stateAt, hcell] using hstate
    rw [hgrid, get?_classifyCells] at hcell
    split_ifs at hcell
    obtain rfl := Option.some.inj hcell
    exact minResidual_le_of_dropDetected params hcellState
  obtain ⟨cell, hcell⟩ : ∃ cell, grid.cells.get? (ix, iy) = some cell := by
    rw [← Option.ne_none_iff_exists']
    intro hnone
    simp [TerrainGrid.stateAt, hnone] at hdrop
  have hmem : cell.minResidualM ∈
      (grid.corridorIndices.filter fun jy => grid.stateAt ix jy = .dropDetected).filterMap
        fun jy => (grid.cells.get? (ix, jy)).map (·.minResidualM) :=
    List.mem_filterMap.mpr ⟨iy, List.mem_filter.mpr ⟨hiy, decide_eq_true hdrop⟩, by rw [hcell]; rfl⟩
  obtain ⟨h, hh⟩ := Option.isSome_iff_exists.mp (List.isSome_min?_of_mem hmem)
  refine ⟨h, hh, ?_⟩
  obtain ⟨jy, hjy, hr⟩ := List.mem_filterMap.mp (List.min?_eq_some_iff.mp hh).1
  exact hdepth (of_decide_eq_true (List.mem_filter.mp hjy).2) hr

end Cells

/-! ## The virtual scan -/

section Scan

variable {α : Type*} [Field α] [LinearOrder α] [FloorRing α] (M : PlanarMath α)
  (scan : CliffScanParams α)

/-- The distances reported on one ray: those of the drop cells projected onto it. -/
def rayDistances (cellSize : α) (cells : List (CellObservation α)) (i : ℕ) : List α :=
  (cells.filter fun c => c.state = .dropDetected ∧ InScan M scan cellSize c ∧
    cellRay M scan cellSize c = i).map (cellDistance M cellSize)

/-- One more cell lowers its own ray to its distance. -/
lemma getElem?_ranges_projectCell (cellSize : α) (acc : CliffScan α) (cell : CellObservation α)
    {i : ℕ} {m : WithTop α} (h : acc.ranges[i]? = some m) :
    (projectCell M scan cellSize acc cell).ranges[i]? =
      some (if cell.state = .dropDetected ∧ InScan M scan cellSize cell ∧
          cellRay M scan cellSize cell = i then
          min m ((cellDistance M cellSize cell : α) : WithTop α) else m) := by
  unfold projectCell
  by_cases hdrop : cell.state = .dropDetected
  · rw [if_neg (not_not.mpr hdrop)]
    by_cases hin : InScan M scan cellSize cell
    · have hray : (cellRay M scan cellSize cell).toNat = i ↔ cellRay M scan cellSize cell = i := by
        have hnonneg : 0 ≤ cellRay M scan cellSize cell := hin.1.1
        omega
      rw [if_pos hin]
      simp only [List.getElem?_modify, h, Option.map_eq_map, Option.map_some, hdrop, hin, hray,
        true_and]
      split_ifs with hi hlt
      · rw [min_eq_right hlt.le]
      · rw [min_eq_left (not_lt.mp hlt)]
      · rfl
    · simp [hdrop, hin, h]
  · simp [hdrop, h]

lemma length_ranges_cliffRanges (grid : TerrainGrid α) (stamp : PyFloat α) :
    (cliffRanges M scan grid stamp).ranges.length = scan.rayCount := by
  unfold cliffRanges
  induction grid.cells.entries.map Prod.snd using List.reverseRecOn with
  | nil => simp
  | append_singleton cells cell ih =>
    rw [List.foldl_append, List.foldl_cons, List.foldl_nil, projectCell]
    split_ifs
    · exact ih
    · simpa using ih
    · exact ih

/-- A ray reports the least distance of the drop cells projected onto it, and nothing else. -/
lemma getElem?_ranges_cliffRanges (grid : TerrainGrid α) (stamp : PyFloat α) {i : ℕ}
    (hi : i < scan.rayCount) :
    (cliffRanges M scan grid stamp).ranges[i]? =
      some (rayDistances M scan grid.cellSizeM (grid.cells.entries.map Prod.snd) i).minimum := by
  unfold cliffRanges
  induction grid.cells.entries.map Prod.snd using List.reverseRecOn with
  | nil => simp [rayDistances, hi]
  | append_singleton cells cell ih =>
    rw [List.foldl_append, List.foldl_cons, List.foldl_nil,
      getElem?_ranges_projectCell M scan _ _ cell ih]
    unfold rayDistances
    rw [List.filter_append, List.map_append]
    split_ifs with h
    · rw [List.filter_singleton, decide_eq_true h, cond_true, List.map_singleton,
        List.minimum_concat]
    · rw [List.filter_singleton, decide_eq_false h]
      simp

/-- The scan depends on the drop cells alone. -/
lemma cliffRanges_filter_dropDetected (grid : TerrainGrid α) (stamp : PyFloat α) :
    cliffRanges M scan
        { grid with cells := grid.cells.filter fun _ c => c.state = .dropDetected } stamp =
      cliffRanges M scan grid stamp := by
  unfold cliffRanges Dict.filter
  dsimp only
  rw [List.foldl_map, List.foldl_map, List.foldl_filter]
  congr 1
  funext acc e
  split_ifs with h
  · rfl
  · have hother : e.2.state ≠ .dropDetected := by simpa using h
    simp [projectCell, hother]

end Scan

/-! ## The coverage payload -/

section Coverage

variable {α : Type*} [Field α] [LinearOrder α]

/-- The arguments and the plane report the frozen contract accepts. -/
def CoverageArgs.Legal (args : CoverageArgs α) (ground : GroundPlane α) : Prop :=
  (finiteField args.validFraction ∧ fractionInRange args.validFraction) ∧
    (∀ n ∈ args.deviceFrameSeq, 0 ≤ n) ∧
    optionalField nonNegative args.processingLatencyS ∧
    finiteField args.sourceStampS ∧ nonEmptyText args.reference ∧
    (ground.pointCount = 0 ∨ ground.inlierCount ≤ ground.pointCount)

variable [IsStrictOrderedRing α] (M : PlanarMath α) (params : TerrainParams α)

omit [Field α] [LinearOrder α] [IsStrictOrderedRing α] in
@[simp] lemma optionalField_some_fin {p : PyFloat α → Prop} {x : α} :
    optionalField p (some (.fin x)) ↔ p (.fin x) := by
  simp [optionalField, finiteField]

omit [Field α] [LinearOrder α] [IsStrictOrderedRing α] in
lemma optionalField_map_fin {p : PyFloat α → Prop} {o : Option α} :
    optionalField p (o.map .fin) ↔ ∀ x ∈ o, p (.fin x) := by
  cases o with
  | none => simp [optionalField]
  | some x => simp

lemma fractionInRange_inlierFraction (ground : GroundPlane α) :
    fractionInRange (.fin ground.inlierFraction) ↔
      ground.pointCount = 0 ∨ ground.inlierCount ≤ ground.pointCount := by
  unfold fractionInRange GroundPlane.inlierFraction
  split_ifs with hnone
  · simp [hnone]
  · have hpos : (0 : α) < ground.pointCount := by
      exact_mod_cast Nat.pos_of_ne_zero hnone
    simp only [PyFloat.fin_le_fin, hnone, false_or]
    rw [div_le_one hpos, Nat.cast_le]
    exact and_iff_right (div_nonneg (Nat.cast_nonneg _) (Nat.cast_nonneg _))

/-- The payload passes its validators exactly when the values passed through are legal: nothing
the core computes itself can be refused. -/
lemma valid_coveragePayload_iff (grid : TerrainGrid α) (hcell : 0 ≤ grid.cellSizeM)
    (ground : GroundPlane α) (args : CoverageArgs α) :
    (coveragePayload M params grid ground args).Valid ↔ args.Legal ground := by
  have htilt : nonNegative (.fin (ground.tiltRad M)) :=
    not_lt.mpr (M.atan_nonneg _ (M.hypot_nonneg _ _))
  have hrows : ∀ n : ℕ, nonNegative (.fin ((n : α) * grid.cellSizeM)) :=
    fun n => not_lt.mpr (mul_nonneg (Nat.cast_nonneg n) hcell)
  have hconfirmed : optionalField nonNegative
      ((confirmedDistance params grid args.validFraction).map .fin) := by
    rw [optionalField_map_fin]
    intro d hd
    unfold confirmedDistance at hd
    split_ifs at hd
    · obtain rfl := Option.some.inj hd
      exact hrows _
    · cases hd
  have hdrop : optionalField nonNegative
      (((firstDropRow grid).map fun ix : ℕ => (ix : α) * grid.cellSizeM).map .fin) := by
    rw [optionalField_map_fin]
    intro d hd
    obtain ⟨n, -, rfl⟩ := Option.map_eq_some_iff.mp hd
    exact hrows n
  have hstep : optionalField (fun _ => True)
      (((firstDropRow grid).bind fun ix : ℕ => stepHeight grid ix).map .fin) := by
    rw [optionalField_map_fin]
    exact fun _ _ => trivial
  have habsent : ∀ p : PyFloat α → Prop, optionalField p none := fun p x hx => by cases hx
  unfold TerrainCoverage.Valid ObservationQuality.Valid coveragePayload CoverageArgs.Legal
  dsimp only
  simp only [optionalField_some_fin, fractionInRange_inlierFraction, htilt, hconfirmed, hdrop,
    hstep, habsent, and_true, true_and]
  have hcount : ∀ n ∈ some (ground.rejectedCandidates : ℤ), 0 ≤ n := by
    intro n hn
    obtain rfl := Option.some.inj hn
    exact Int.natCast_nonneg _
  constructor
  · rintro ⟨⟨hfraction, hseq, hlatency, hinliers, -⟩, hstamp, href⟩
    exact ⟨hfraction, hseq, hlatency, hstamp, href, hinliers⟩
  · rintro ⟨hfraction, hseq, hlatency, hstamp, href, hinliers⟩
    exact ⟨⟨hfraction, hseq, hlatency, hinliers, hcount⟩, hstamp, href⟩

omit [IsStrictOrderedRing α] in
lemma of_terrainCoverage_eq_ok {grid : TerrainGrid α} {ground : GroundPlane α}
    {args : CoverageArgs α} {c : Subtype (TerrainCoverage.Valid (α := α))}
    (h : terrainCoverage M params grid ground args = .ok c) :
    c.val = coveragePayload M params grid ground args :=
  val_of_checked_eq_ok h

variable [FloorRing α] (points : List (Point3 α)) (plane : GroundPlane α)

omit [IsStrictOrderedRing α] in
/-- A confirmed distance is made of whole rows whose corridor cells all show enough floor. -/
lemma of_confirmedDistance_eq_some {validFraction : PyFloat α} {d : α}
    (h : confirmedDistance params (classifyCells params points plane) validFraction = some d) :
    .fin params.grid.minValidFraction ≤ validFraction ∧
      ∃ n : ℕ, 0 < n ∧ d = n * params.grid.cellSizeM ∧
        ∀ ix : ℕ, ix < n → ∀ iy ∈ corridorLateralIndices params.grid,
          params.grid.minPointsPerCell ≤
              floorPoints params (cellResiduals params points plane (ix, iy)) ∧
            dropPoints params (cellResiduals params points plane (ix, iy)) = 0 := by
  unfold confirmedDistance at h
  split_ifs at h with hestablished
  obtain rfl := Option.some.inj h
  refine ⟨hestablished.1, _, hestablished.2, rfl, ?_⟩
  intro ix hix iy hiy
  have hrow := rowState_of_lt_confirmedCells _ hix
  have hcell := stateAt_of_rowState_eq_floorConfirmed _ hrow hiy
  rw [stateAt_classifyCells] at hcell
  exact of_cellState_eq_floorConfirmed params hcell

omit [IsStrictOrderedRing α] in
/-- A drop cell in the corridor is found by the scan over the rows, whatever they show before. -/
lemma exists_firstDropRow_of_drop {ix iy : ℤ} (hiy : iy ∈ corridorLateralIndices params.grid)
    (hdrop : (classifyCells params points plane).stateAt ix iy = .dropDetected) :
    ∃ n, firstDropRow (classifyCells params points plane) = some n := by
  have hbounds := bounds_of_stateAt_eq_dropDetected params points plane hdrop
  rw [← Option.ne_none_iff_exists', ne_eq, firstDropRow_eq_none_iff]
  intro hnone
  have hlt : ix.toNat < (classifyCells params points plane).forwardCellCount.toNat := by
    rw [forwardCellCount_classifyCells]
    omega
  refine hnone ix.toNat hlt ?_
  rw [Int.toNat_of_nonneg hbounds.1, rowState_eq_dropDetected_iff]
  exact ⟨iy, hiy, hdrop⟩

/-- What a confirmed floor promises: the quality is established, every corridor cell that begins
before the confirmed distance has enough floor points and no drop point, and the corridor has no
drop cell at any distance. -/
def FloorSound (args : CoverageArgs α) (c : TerrainCoverage α) : Prop :=
  c.state = .floorConfirmed →
    ∃ d : α, c.confirmedDistanceM = some (.fin d) ∧ 0 < d ∧
      .fin params.grid.minValidFraction ≤ args.validFraction ∧
      (∀ ix iy : ℤ, 0 ≤ ix → ix * params.grid.cellSizeM < d →
        iy ∈ corridorLateralIndices params.grid →
          params.grid.minPointsPerCell ≤
              floorPoints params (cellResiduals params points plane (ix, iy)) ∧
            dropPoints params (cellResiduals params points plane (ix, iy)) = 0) ∧
      ∀ ix iy : ℤ, iy ∈ corridorLateralIndices params.grid →
        (classifyCells params points plane).stateAt ix iy ≠ .dropDetected

/-- What a drop cell in the corridor forces: the drop state, the distance of the nearest row with
a drop cell, and a step down of at least the threshold. -/
def DropReported (c : TerrainCoverage α) : Prop :=
  (∃ ix iy : ℤ, iy ∈ corridorLateralIndices params.grid ∧
      (classifyCells params points plane).stateAt ix iy = .dropDetected) →
    c.state = .dropDetected ∧
      (∃ row : ℤ, IsLeast {ix | ∃ iy ∈ corridorLateralIndices params.grid,
            (classifyCells params points plane).stateAt ix iy = .dropDetected} row ∧
          c.nearestDropDistanceM = some (.fin (row * params.grid.cellSizeM))) ∧
      ∃ h : α, c.stepHeightM = some (.fin h) ∧ h ≤ -params.grid.dropThresholdM

/-- Only drop cells reach the virtual scan: a ray with a finite range carries the distance of a
drop cell, and the cells of any other state can be taken away without a trace. -/
def ScanShowsDropsOnly (scan : CliffScanParams α) (stamp : PyFloat α) (grid : TerrainGrid α) :
    Prop :=
  (∀ (i : ℕ) (r : α), (cliffRanges M scan grid stamp).ranges[i]? = some (r : WithTop α) →
      ∃ key cell, grid.cells.get? key = some cell ∧ cell.state = .dropDetected ∧
        cellRay M scan grid.cellSizeM cell = i ∧ cellDistance M grid.cellSizeM cell = r) ∧
    cliffRanges M scan
        { grid with cells := grid.cells.filter fun _ c => c.state = .dropDetected } stamp =
      cliffRanges M scan grid stamp

lemma floorSound_coveragePayload (args : CoverageArgs α) :
    FloorSound params points plane args
      (coveragePayload M params (classifyCells params points plane) plane args) := by
  intro hstate
  set grid := classifyCells params points plane with hgrid
  -- the state is only reached without a drop row and with a confirmed distance
  have hnone : firstDropRow grid = none := by
    by_contra hsome
    obtain ⟨n, hn⟩ := Option.ne_none_iff_exists'.mp hsome
    simp [coveragePayload, coverageState, hn] at hstate
  obtain ⟨d, hd, hpos⟩ : ∃ d ∈ confirmedDistance params grid args.validFraction, 0 < d := by
    by_contra hno
    simp only [coveragePayload, coverageState, hnone, Option.map_none, Option.isSome_none,
      Bool.false_eq_true, if_false, if_neg hno] at hstate
    cases hstate
  obtain ⟨hquality, n, -, hdn, hrows⟩ := of_confirmedDistance_eq_some params points plane hd
  refine ⟨d, ?_, hpos, hquality, ?_, ?_⟩
  · have hsome : confirmedDistance params grid args.validFraction = some d := hd
    simp [coveragePayload, hsome]
  · intro ix iy hnonneg hlt hiy
    have hbefore : ix < n := by
      rw [hdn] at hlt
      exact_mod_cast lt_of_mul_lt_mul_right hlt params.grid.cell_pos.le
    have hrow := hrows ix.toNat (by omega) iy hiy
    rwa [Int.toNat_of_nonneg hnonneg] at hrow
  · intro ix iy hiy hdrop
    obtain ⟨m, hm⟩ := exists_firstDropRow_of_drop params points plane hiy hdrop
    rw [hnone] at hm
    cases hm

omit [IsStrictOrderedRing α] in
lemma dropReported_coveragePayload (args : CoverageArgs α) :
    DropReported params points plane
      (coveragePayload M params (classifyCells params points plane) plane args) := by
  rintro ⟨ix, iy, hiy, hdrop⟩
  obtain ⟨n, hn⟩ := exists_firstDropRow_of_drop params points plane hiy hdrop
  obtain ⟨-, hrow, hleast⟩ := (firstDropRow_eq_some_iff _).mp hn
  obtain ⟨jy, hjy, hcell⟩ := (rowState_eq_dropDetected_iff _).mp hrow
  obtain ⟨h, hstep, hdepth⟩ := stepHeight_of_drop params points plane hjy hcell
  refine ⟨by simp [coveragePayload, coverageState, hn], ⟨n, ⟨⟨jy, hjy, hcell⟩, ?_⟩, ?_⟩, h, ?_,
    hdepth⟩
  · rintro kx ⟨ky, hky, hkdrop⟩
    by_contra hlt
    have hbounds := bounds_of_stateAt_eq_dropDetected params points plane hkdrop
    refine hleast kx.toNat (by omega) ?_
    rw [Int.toNat_of_nonneg hbounds.1, rowState_eq_dropDetected_iff]
    exact ⟨ky, hky, hkdrop⟩
  · simp [coveragePayload, hn]
  · simp [coveragePayload, hn, hstep]

omit [IsStrictOrderedRing α] in
lemma scanShowsDropsOnly_cliffRanges (scan : CliffScanParams α) (stamp : PyFloat α)
    (grid : TerrainGrid α) : ScanShowsDropsOnly M scan stamp grid := by
  refine ⟨?_, cliffRanges_filter_dropDetected M scan grid stamp⟩
  intro i r hr
  have hi : i < scan.rayCount := by
    obtain ⟨hlt, -⟩ := List.getElem?_eq_some_iff.mp hr
    rwa [length_ranges_cliffRanges] at hlt
  rw [getElem?_ranges_cliffRanges M scan grid stamp hi, Option.some.injEq] at hr
  obtain ⟨cell, hcell, hdistance⟩ := List.mem_map.mp (List.minimum_mem hr)
  obtain ⟨hmem, hproj⟩ := List.mem_filter.mp hcell
  obtain ⟨hdrop, -, hray⟩ := of_decide_eq_true hproj
  obtain ⟨e, he, rfl⟩ := List.mem_map.mp hmem
  exact ⟨e.1, e.2, (grid.cells.mem_entries_iff).mp he, hdrop, hray, hdistance⟩

/-- Soundness of the terrain verdict, for every list of projected points, every plane and every
configuration.  The coverage is refused only for the values it is handed; what it reports is a
statement about the points of the corridor; and the virtual scan shows drop cells only. -/
theorem terrain_verdict_sound (args : CoverageArgs α) (scan : CliffScanParams α)
    (stamp : PyFloat α) :
    ((∃ c, terrainCoverage M params (classifyCells params points plane) plane args = .ok c) ↔
        args.Legal plane) ∧
      (∀ c, terrainCoverage M params (classifyCells params points plane) plane args = .ok c →
        FloorSound params points plane args c.val ∧ DropReported params points plane c.val) ∧
      ScanShowsDropsOnly M scan stamp (classifyCells params points plane) := by
  refine ⟨?_, ?_, scanShowsDropsOnly_cliffRanges M scan stamp _⟩
  · rw [← valid_coveragePayload_iff M params (classifyCells params points plane)
      params.grid.cell_pos.le plane args]
    constructor
    · rintro ⟨c, hc⟩
      exact of_terrainCoverage_eq_ok M params hc ▸ c.property
    · intro hvalid
      exact ⟨_, checked_of_valid hvalid⟩
  · intro c hc
    rw [of_terrainCoverage_eq_ok M params hc]
    exact ⟨floorSound_coveragePayload M params points plane args,
      dropReported_coveragePayload M params points plane args⟩

end Coverage

/-! A level floor of two rows, seen on both sides of the axis. -/

/-- A grid of unit cells, two rows deep, with one lateral bin on each side. -/
def twoRowParams : TerrainParams ℚ where
  mounting := ⟨0⟩
  grid :=
    { cellSizeM := 1
      corridorHalfWidthM := 1
      forwardRangeM := 2
      minPointsPerCell := 1
      dropThresholdM := 1 / 5
      minValidFraction := 1 / 2
      cell_pos := rat_one_pos
      corridor_pos := rat_one_pos
      corridor_holds_bin := by decide +kernel
      range_pos := by decide
      range_holds_cell := by decide +kernel
      points_pos := nat_one_le_one
      drop_pos := by decide +kernel
      fraction_pos := rat_half_pos
      fraction_le_one := rat_half_le_one }
  groundFit := ⟨1 / 10, rat_tenth_pos⟩
  bands_disjoint := by decide +kernel

/-- One point in each of the four corridor cells, on the ground. -/
def twoRowPoints : List (Point3 ℚ) :=
  [⟨1 / 2, 1 / 2, 0⟩, ⟨1 / 2, -1 / 2, 0⟩, ⟨3 / 2, 1 / 2, 0⟩, ⟨3 / 2, -1 / 2, 0⟩]

/-- The plane `Z = 0`, supported by every point. -/
def levelPlane (n : ℕ) : GroundPlane ℚ := ⟨0, 0, 0, n, n, true, 0⟩

/-- A frame of full quality. -/
def fullQuality : CoverageArgs ℚ := ⟨.fin 1, .fin 0, "wheel_contact", none, none, none⟩

theorem terrain_verdict_sound_two_rows :
    ∃ c, terrainCoverage PlanarMath.rational twoRowParams
        (classifyCells twoRowParams twoRowPoints (levelPlane 4)) (levelPlane 4) fullQuality = .ok c ∧
      c.val.state = .floorConfirmed ∧ c.val.confirmedDistanceM = some (.fin 2) ∧
      FloorSound twoRowParams twoRowPoints (levelPlane 4) fullQuality c.val := by
  have hlegal : fullQuality.Legal (levelPlane 4) := by
    refine ⟨by decide +kernel, ?_, ?_, rfl, by decide +kernel, .inr le_rfl⟩
    · exact fun n hn => by cases hn
    · exact fun x hx => by cases hx
  have hsound := terrain_verdict_sound PlanarMath.rational twoRowParams twoRowPoints (levelPlane 4)
    fullQuality ⟨-1, 1, 1, 1, 2, by decide, le_rfl, by decide, by decide⟩ (.fin 0)
  obtain ⟨c, hc⟩ := hsound.1.mpr hlegal
  have hvalue := of_terrainCoverage_eq_ok PlanarMath.rational twoRowParams hc
  refine ⟨c, hc, ?_, ?_, (hsound.2.1 c hc).1⟩
  · rw [hvalue]
    decide +kernel
  · rw [hvalue]
    decide +kernel

end Perception

end MiniatureWarehouse
