import MiniatureWarehouse.Interfaces.Locations
import MiniatureWarehouse.Planning.TaskGraph

/-!
# The visual task resolver

An image detection becomes a place of the warehouse in four gates: a usable calibration, a mapped
point inside the valid polygon, a known location within the snap radius, and no disagreement about
the class of the object.  A detection that fails one of them is unresolved and has no destination,
which the type of a resolved target says once and for all.

All numbers are floats of a format; thresholds, coordinates and the combination of confidences
are injected with the policy.
-/

namespace MiniatureWarehouse

/-- `Resolution`. -/
inductive Resolution
  | knownLocation
  | unresolved
  deriving DecidableEq, Repr

/-- `UnresolvedReason`. -/
inductive UnresolvedReason
  | offMap
  | outsideValidPolygon
  | beyondSnapRadius
  | reprojectionErrorTooLarge
  | noCalibration
  | objectClassMismatch
  deriving DecidableEq, Repr

/-- The spelling of a reason. -/
def UnresolvedReason.value : UnresolvedReason → String
  | offMap => "off_map"
  | outsideValidPolygon => "outside_valid_polygon"
  | beyondSnapRadius => "beyond_snap_radius"
  | reprojectionErrorTooLarge => "reprojection_error_too_large"
  | noCalibration => "no_calibration"
  | objectClassMismatch => "object_class_mismatch"

/-- `ResolvedTarget`, with the check of its validator as a field: an unresolved target never has a
destination. -/
structure ResolvedTarget (α : Type*) where
  targetId : String
  resolution : Resolution
  destination : Option String
  confidence : PyFloat α
  reason : String
  unresolved_has_no_destination : resolution = .unresolved → destination = none

/-- `Calibration`, as far as the resolver reads it. -/
structure Calibration (α : Type*) where
  homography : List (List (PyFloat α)) := []
  reprojectionError : Option (PyFloat α) := none
  validPolygon : List (List (PyFloat α)) := []
  pixelSpace : String := "raw"
  imageSize : Option (List ℤ) := none

/-- `VisualPolicy`: the injected thresholds, coordinates and classes, and the combination of a
detection's confidence with the quality of its snap. -/
structure VisualPolicy (α : Type*) where
  locationCoords : Dict String (PyFloat α × PyFloat α)
  snapRadius : PyFloat α
  maxReprojectionError : PyFloat α
  composeConfidence : PyFloat α → PyFloat α → PyFloat α
  locationClasses : Dict String String := .empty

namespace VisualResolver

section Arithmetic

variable {α : Type*} [Field α] [LinearOrder α] [IsStrictOrderedRing α] (F : FloatFormat α)

/-- The literal `1e-12`. -/
def tiny : PyFloat α := F.round (1 / 10 ^ 12)

/-- `_is_valid_homography`. -/
def isValidHomography : List (List (PyFloat α)) → Bool
  | [[a, b, c], [d, e, f], [g, h, i]] =>
    let det := F.add
      (F.sub (F.mul a (F.sub (F.mul e i) (F.mul f h))) (F.mul b (F.sub (F.mul d i) (F.mul f g))))
      (F.mul c (F.sub (F.mul d h) (F.mul e g)))
    decide (tiny F < det.abs)
  | _ => false

/-- `_pixel_scale`: the factors of the declared pixel space, nothing when it is unusable. -/
def pixelScale (cal : Calibration α) : Except PyErr (Option (PyFloat α × PyFloat α)) :=
  if cal.pixelSpace = "raw" then .ok (some (.fin 1, .fin 1))
  else if cal.pixelSpace = "normalized_0_1000" then
    match cal.imageSize with
    | some [w, h] =>
      if w ≤ 0 ∨ h ≤ 0 then .ok none
      else do
        let w ← (PyVal.int w : PyVal α).toFloat F
        let h ← (PyVal.int h : PyVal α).toFloat F
        return some (F.div w (.fin 1000), F.div h (.fin 1000))
    | _ => .ok none
  else .ok none

/-- `row[0] * u + row[1] * v + row[2]`. -/
def rowValue (row : List (PyFloat α)) (u v : PyFloat α) : PyFloat α :=
  match row with
  | [a, b, c] => F.add (F.add (F.mul a u) (F.mul b v)) c
  | _ => .nan

/-- `_apply_homography` of a valid homography: a point on or behind the horizon is mapped to
infinity, which no later gate lets through. -/
def applyHomography (homography : List (List (PyFloat α))) (u v : PyFloat α) :
    PyFloat α × PyFloat α :=
  match homography with
  | [row₀, row₁, row₂] =>
    let w := rowValue F row₂ u v
    if w ≤ tiny F then (.posInf, .posInf)
    else (F.div (rowValue F row₀ u v) w, F.div (rowValue F row₁ u v) w)
  | _ => (.nan, .nan)

/-- Does the edge from one vertex to another cross the ray from the point? -/
def edgeCrosses (x y : PyFloat α) (vᵢ vⱼ : PyFloat α × PyFloat α) : Except PyErr Bool :=
  let (xi, yi) := vᵢ
  let (xj, yj) := vⱼ
  if decide (y < yi) = decide (y < yj) then .ok false
  else (pyDiv F (F.mul (F.sub xj xi) (F.sub y yi)) (F.sub yj yi)).map fun t =>
    decide (x < F.add t xi)

/-- The loop of `_point_in_polygon`: each vertex with the one before it. -/
def countCrossings (x y : PyFloat α) :
    List (PyFloat α × PyFloat α) → PyFloat α × PyFloat α → Bool → Except PyErr Bool
  | [], _, inside => .ok inside
  | vᵢ :: vs, vⱼ, inside => do
    let crosses ← edgeCrosses F x y vᵢ vⱼ
    countCrossings x y vs vᵢ (inside != crosses)

/-- The vertex a row describes, if it has two elements. -/
def vertex? : List (PyFloat α) → Option (PyFloat α × PyFloat α)
  | x :: y :: _ => some (x, y)
  | _ => none

/-- `_point_in_polygon`: fewer than three vertices, or a row that is none, bound no area. -/
def pointInPolygon (x y : PyFloat α) (polygon : List (List (PyFloat α))) : Except PyErr Bool :=
  if polygon.length < 3 then .ok false
  else
    match polygon.mapM vertex? with
    | none => .ok false
    | some vs => countCrossings F x y vs (vs.getLastD (.nan, .nan)) false

variable (L : MathLib α)

/-- The loop of `_nearest_known_location`: only names of the frozen vocabulary are considered. -/
def nearestLoop (x y : PyFloat α) :
    List (String × PyFloat α × PyFloat α) → String × PyFloat α → String × PyFloat α
  | [], best => best
  | (name, lx, ly) :: rest, best =>
    if isKnownLocation name then
      let dist := L.hypot (F.sub x lx) (F.sub y ly)
      nearestLoop x y rest (if dist < best.2 then (name, dist) else best)
    else nearestLoop x y rest best

/-- `_nearest_known_location`: the empty name when there is none. -/
def nearestKnownLocation (x y : PyFloat α) (coords : Dict String (PyFloat α × PyFloat α)) :
    String × PyFloat α :=
  nearestLoop F L x y coords.entries ("", .posInf)

/-- `_unresolved`. -/
def unresolved (targetId : String) (reason : UnresolvedReason) : ResolvedTarget α :=
  ⟨targetId, .unresolved, none, .fin 0, reason.value, fun _ => rfl⟩

/-- A snap to a location. -/
def snapped (targetId name : String) (confidence : PyFloat α) : ResolvedTarget α :=
  ⟨targetId, .knownLocation, some name, confidence, "snapped_to_" ++ name, nofun⟩

/-- The first two gates: is the calibration usable at all? -/
def calibrationDefect (policy : VisualPolicy α) (cal : Calibration α) : Option UnresolvedReason :=
  if !isValidHomography F cal.homography then some .noCalibration
  else
    match cal.reprojectionError with
    | none => none
    | some e =>
      if !e.isFinite ∨ policy.maxReprojectionError < e then some .reprojectionErrorTooLarge
      else none

/-- Gate 3a: the map point of a pixel, or why there is none. -/
def mapPoint (cal : Calibration α) (pixel : List ℤ) :
    Except PyErr (Except UnresolvedReason (PyFloat α × PyFloat α)) :=
  match pixel with
  | u :: v :: _ => do
    let u ← (PyVal.int u : PyVal α).toFloat F
    let v ← (PyVal.int v : PyVal α).toFloat F
    let scale ← pixelScale F cal
    match scale with
    | none => return .error .noCalibration
    | some scale =>
      let normalized := decide (scale ≠ (.fin 1, .fin 1)) || cal.pixelSpace = "normalized_0_1000"
      let inRange (a : PyFloat α) : Bool := decide (.fin 0 ≤ a) && decide (a ≤ .fin 1000)
      if normalized && !(inRange u && inRange v) then return .error .offMap
      let (u, v) := if normalized then (F.mul u scale.1, F.mul v scale.2) else (u, v)
      let (x, y) := applyHomography F cal.homography u v
      if x.isFinite && y.isFinite then return .ok (x, y) else return .error .offMap
  | _ => return .error .offMap

/-- Do both sides name a class, and different ones? -/
def classMismatch (policy : VisualPolicy α) (name : String) (color : Option String) : Bool :=
  match color, policy.locationClasses.get? name with
  | some color, some expected => color ≠ expected
  | _, _ => false

/-- Gate 4: snap a map point to the nearest location, or not. -/
def snap (policy : VisualPolicy α) (detection : Detection α) (x y : PyFloat α) : ResolvedTarget α :=
  let (name, dist) := nearestKnownLocation F L x y policy.locationCoords
  if name = "" ∨ !policy.snapRadius.isFinite ∨ policy.snapRadius < dist then
    unresolved detection.id .beyondSnapRadius
  else if classMismatch policy name detection.color then
    unresolved detection.id .objectClassMismatch
  else
    let quality :=
      if .fin 0 < policy.snapRadius then F.sub (.fin 1) (F.div dist policy.snapRadius) else .fin 1
    let detConf := detection.confidence.getD (.fin 0)
    snapped detection.id name (policy.composeConfidence detConf quality)

/-- `_resolve_one`. -/
def resolveOne (policy : VisualPolicy α) (cal : Calibration α) (detection : Detection α) :
    Except PyErr (ResolvedTarget α) :=
  match calibrationDefect F policy cal with
  | some reason => .ok (unresolved detection.id reason)
  | none =>
    (mapPoint F cal detection.pixel).bind fun
    | .error reason => .ok (unresolved detection.id reason)
    | .ok (x, y) =>
      (pointInPolygon F x y cal.validPolygon).map fun
      | false => unresolved detection.id .outsideValidPolygon
      | true => snap F L policy detection x y

/-- `resolve`: one target for each detection, in order. -/
def resolve (policy : VisualPolicy α) (cal : Calibration α) (detections : List (Detection α)) :
    Except PyErr (List (ResolvedTarget α)) :=
  detections.mapM (resolveOne F L policy cal)

variable {F L}

/-- A target carries the id of its detection. -/
theorem resolveOne_targetId {policy : VisualPolicy α} {cal : Calibration α}
    {detection : Detection α} {target : ResolvedTarget α}
    (h : resolveOne F L policy cal detection = .ok target) : target.targetId = detection.id := by
  unfold resolveOne at h
  split at h
  · rw [← Except.ok.inj h]
    rfl
  · obtain ⟨point, -, h⟩ := exceptBind_eq_ok.mp h
    cases point with
    | error reason =>
      rw [← Except.ok.inj h]
      rfl
    | ok point =>
      obtain ⟨inside, -, h⟩ := exceptMap_eq_ok.mp h
      rw [← h]
      cases inside with
      | false => rfl
      | true =>
        dsimp only
        unfold snap
        dsimp only
        split_ifs <;> rfl

/-- A resolution pairs every detection with the target it was resolved to. -/
theorem forall₂_of_resolve {policy : VisualPolicy α} {cal : Calibration α}
    {detections : List (Detection α)} {targets : List (ResolvedTarget α)}
    (h : resolve F L policy cal detections = .ok targets) :
    List.Forall₂ (fun d t => resolveOne F L policy cal d = .ok t) detections targets :=
  forall₂_of_mapM_eq_ok h

end Arithmetic

end VisualResolver

end MiniatureWarehouse
