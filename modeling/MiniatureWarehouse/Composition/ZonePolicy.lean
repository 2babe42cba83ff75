import MiniatureWarehouse.Composition.Plugins
import MiniatureWarehouse.Planning.VisualSoundness
import Mathlib.Data.Set.List

/-!
# The zone rule

The plugin `l3.zone_policy` rejects every navigate task whose target is not provably inside a zone.
It carries its own copies of two computations of the visual resolver: the map from pixels to points
and the ray-casting test.  A robot is sent to the point of the resolver, so that the rule protects
the zone only as far as the two agree.

The copies differ.  The plugin projects a pixel as it is, whatever space the calibration declares
for pixels; it divides by the weight whatever its sign is, and raises where it is zero; it raises on
a vertex that is no pair; and it computes the abscissa of an edge from the other end.
`zone_policy_agrees_iff` says for which plans none of this shows.
-/

namespace MiniatureWarehouse

namespace ZonePolicy

open RayCasting

/-! ## The plugin -/

/-- What the rule raises: an index that is out of range, or another exception. -/
inductive RuleError
  | indexError
  | other (e : PyErr)
  deriving DecidableEq, Repr

/-- `ZonePolicyPlugin`: the zone and the homography are injected. -/
structure ZonePolicyPlugin (α : Type*) where
  zone : List (List (PyFloat α))
  homography : List (List (PyFloat α))

/-- The finding about a task whose target is not provably in the zone. -/
def zoneFinding (repr : String → String) (task : TaskNode) : PluginFinding where
  pluginId := "l3.zone_policy"
  reasonCode := "target_out_of_zone"
  messageForOperator := "task " ++ repr task.id ++ ": target " ++ task.target.elim "None" repr ++
    " is not provably inside the allowed zone (must_be_inside, fail-closed)"
  dispatchEffect := .block

section Rule

variable {α : Type*} [Field α] [LinearOrder α] [IsStrictOrderedRing α] (F : FloatFormat α)

omit [Field α] [LinearOrder α] [IsStrictOrderedRing α] in
/-- `h[i][j]`. -/
def entry (homography : List (List (PyFloat α))) (i j : ℕ) : Except RuleError (PyFloat α) :=
  (homography[i]?.bind (·[j]?)).elim (.error .indexError) .ok

/-- `h[i][0] * u + h[i][1] * v + h[i][2]`. -/
def homogeneous (homography : List (List (PyFloat α))) (i : ℕ) (u v : PyFloat α) :
    Except RuleError (PyFloat α) := do
  let a ← entry homography i 0
  let b ← entry homography i 1
  let c ← entry homography i 2
  return F.add (F.add (F.mul a u) (F.mul b v)) c

/-- `_pixel_to_map`. -/
def pixelToMap (pixel : List ℤ) (homography : List (List (PyFloat α))) :
    Except RuleError (PyFloat α × PyFloat α) :=
  match pixel with
  | u :: v :: _ => do
    let u ← ((PyVal.int u : PyVal α).toFloat F).mapError .other
    let v ← ((PyVal.int v : PyVal α).toFloat F).mapError .other
    let w ← homogeneous F homography 2 u v
    let x ← homogeneous F homography 0 u v
    let x ← (pyDiv F x w).mapError .other
    let y ← homogeneous F homography 1 u v
    let y ← (pyDiv F y w).mapError .other
    return (x, y)
  | _ => .error .indexError

/-- `x1, y1 = polygon[i]`. -/
def unpack : List (PyFloat α) → Except PyErr (PyFloat α × PyFloat α)
  | [x, y] => .ok (x, y)
  | _ => .error .valueError

/-- The loop of `_point_in_polygon`: each vertex with the next one. -/
def countEdges (x y : PyFloat α) :
    List (List (PyFloat α) × List (PyFloat α)) → Bool → Except PyErr Bool
  | [], inside => .ok inside
  | (p₁, p₂) :: edges, inside =>
    (unpack p₁).bind fun v₁ =>
      (unpack p₂).bind fun v₂ =>
        (VisualResolver.edgeCrosses F x y v₁ v₂).bind fun crosses =>
          countEdges x y edges (inside != crosses)

/-- `_point_in_polygon`. -/
def pointInPolygon (x y : PyFloat α) (polygon : List (List (PyFloat α))) : Except PyErr Bool :=
  countEdges F x y (closedEdges polygon) false

/-- The detections of a plan under their ids; an empty id is none. -/
def detectionsById (plan : RoboticsPlanDraft α) : Dict String (Detection α) :=
  (plan.detections.filter fun d => d.id ≠ "").foldl (fun acc d => acc.set d.id d) .empty

/-- Is the target of a task provably in the zone? -/
def inZone (plugin : ZonePolicyPlugin α) (plan : RoboticsPlanDraft α) (task : TaskNode) :
    Except RuleError Bool :=
  match task.target.bind (detectionsById plan).get? with
  | none => .ok false
  | some detection =>
    if detection.pixel.length < 2 then .ok false
    else
      (pixelToMap F detection.pixel plugin.homography).bind fun point =>
        (pointInPolygon F point.1 point.2 plugin.zone).mapError .other

variable (repr : String → String)

/-- The loop of `validate_plan`. -/
def ruleLoop (plugin : ZonePolicyPlugin α) (plan : RoboticsPlanDraft α) :
    List TaskNode → Except RuleError (List PluginFinding)
  | [] => .ok []
  | task :: tasks =>
    if task.action ≠ "navigate" then ruleLoop plugin plan tasks
    else do
      let inside ← inZone F plugin plan task
      let findings ← ruleLoop plugin plan tasks
      return if inside then findings else zoneFinding repr task :: findings

/-- `validate_plan`: a finding for each navigate task whose target is not provably in the zone. -/
def validatePlan (plugin : ZonePolicyPlugin α) (plan : RoboticsPlanDraft α) :
    Except RuleError (List PluginFinding) :=
  ruleLoop F repr plugin plan plan.taskGraph

/-! ## The same question to the resolver -/

/-- The detection whose resolution counts for a target: the last with that id. -/
def detectionOf (plan : RoboticsPlanDraft α) (target : String) : Option (Detection α) :=
  plan.detections.reverse.find? fun d => d.id = target

/-- The point that the visual resolver maps a pixel to, if there is one. -/
def resolverPoint (cal : Calibration α) (pixel : List ℤ) : Option (PyFloat α × PyFloat α) :=
  if VisualResolver.isValidHomography F cal.homography then
    match VisualResolver.mapPoint F cal pixel with
    | .ok (.ok point) => some point
    | _ => none
  else none

/-- The resolver maps the target of a task to a point that is inside a polygon by its own test. -/
def ResolvedInside (cal : Calibration α) (polygon : List (List (PyFloat α)))
    (plan : RoboticsPlanDraft α) (task : TaskNode) : Prop :=
  ∃ target detection x y, task.target = some target ∧ detectionOf plan target = some detection ∧
    resolverPoint F cal detection.pixel = some (x, y) ∧
    VisualResolver.pointInPolygon F x y polygon = .ok true

/-- The plugin comes to a judgement about each navigate task, the one of the resolver, and reports
exactly the tasks that it judges to be out of the zone. -/
def Agrees (cal : Calibration α) (polygon : List (List (PyFloat α)))
    (plan : RoboticsPlanDraft α) : Prop :=
  ∃ judged : List (TaskNode × Bool),
    judged.map Prod.fst = plan.taskGraph.filter (fun t => t.action = "navigate") ∧
    validatePlan F repr ⟨polygon, cal.homography⟩ plan =
      .ok ((judged.filter fun j => !j.2).map fun j => zoneFinding repr j.1) ∧
    ∀ j ∈ judged, inZone F ⟨polygon, cal.homography⟩ plan j.1 = .ok j.2 ∧
      (j.2 = true ↔ ResolvedInside F cal polygon plan j.1)

end Rule

/-! ## What the plugin computes -/

section Judgement

variable {α : Type*} [Field α] [LinearOrder α] [IsStrictOrderedRing α]

open VisualResolver (Regular MapsTo MapsPixel InsidePolygon)

/-- The row of a vertex. -/
def vertexRow (v : PyFloat α × PyFloat α) : List (PyFloat α) := [v.1, v.2]

/-- A ray from the point crosses the closed polygon an odd number of times. -/
def Encloses (vs : List (PyFloat α × PyFloat α)) (x y : PyFloat α) : Prop :=
  Odd (crossingNumber (crosses (FloatFormat.exact α) x y) vs)

omit [Field α] [LinearOrder α] [IsStrictOrderedRing α] in
lemma unpack_eq_ok {r : List (PyFloat α)} {v : PyFloat α × PyFloat α} :
    unpack r = .ok v ↔ r = vertexRow v := by
  constructor
  · intro h
    unfold unpack at h
    split at h
    · obtain rfl := Except.ok.inj h
      rfl
    · cases h
  · rintro rfl
    rfl

lemma countEdges_exact (x y : PyFloat α)
    (edges : List ((PyFloat α × PyFloat α) × (PyFloat α × PyFloat α))) (inside : Bool) :
    countEdges (FloatFormat.exact α) x y (edges.map (Prod.map vertexRow vertexRow)) inside =
      .ok (inside != decide (Odd (edges.countP fun e =>
        crosses (FloatFormat.exact α) x y e.1 e.2))) := by
  induction edges generalizing inside with
  | nil =>
    rw [List.map_nil, countEdges, List.countP_nil]
    simp
  | cons e edges ih =>
    have hedge := VisualResolver.edgeCrosses_exact x y e.1 e.2
    show (VisualResolver.edgeCrosses (FloatFormat.exact α) x y e.1 e.2).bind _ = _
    rw [hedge]
    show countEdges (FloatFormat.exact α) x y (edges.map (Prod.map vertexRow vertexRow))
      (inside != crosses (FloatFormat.exact α) x y e.1 e.2) = _
    rw [ih, List.countP_cons, bne_odd_succ]

/-- The loop ends only when every vertex is a pair. -/
lemma exists_vertex_of_countEdges {x y : PyFloat α}
    {edges : List (List (PyFloat α) × List (PyFloat α))} {inside judged : Bool}
    (h : countEdges (FloatFormat.exact α) x y edges inside = .ok judged) :
    ∀ e ∈ edges, ∃ v, vertexRow v = e.1 := by
  induction edges generalizing inside with
  | nil =>
    intro e he
    exact absurd he List.not_mem_nil
  | cons e edges ih =>
    rw [countEdges] at h
    obtain ⟨v₁, hv₁, h⟩ := exceptBind_eq_ok.mp h
    obtain ⟨v₂, -, h⟩ := exceptBind_eq_ok.mp h
    obtain ⟨crossed, -, h⟩ := exceptBind_eq_ok.mp h
    exact List.forall_mem_cons.mpr ⟨⟨v₁, (unpack_eq_ok.mp hv₁).symm⟩, ih h⟩

/-- The crossing test of the plugin wants pairs, and counts the crossings of a closed polygon. -/
lemma pointInPolygon_eq_ok {x y : PyFloat α} {polygon : List (List (PyFloat α))} {judged : Bool} :
    pointInPolygon (FloatFormat.exact α) x y polygon = .ok judged ↔
      ∃ vs, polygon = vs.map vertexRow ∧ (judged = true ↔ Encloses vs x y) := by
  have hpairs : ∀ vs, pointInPolygon (FloatFormat.exact α) x y (vs.map vertexRow) =
      .ok (decide (Odd (crossingNumber (crosses (FloatFormat.exact α) x y) vs))) := by
    intro vs
    unfold pointInPolygon
    rw [closedEdges_map, countEdges_exact, Bool.false_bne]
    rfl
  constructor
  · intro h
    have hrows : polygon ∈ Set.range (List.map (vertexRow (α := α))) := by
      rw [Set.range_list_map]
      intro r hr
      rw [← map_fst_closedEdges polygon] at hr
      obtain ⟨e, he, rfl⟩ := List.mem_map.mp hr
      exact exists_vertex_of_countEdges h e he
    obtain ⟨vs, rfl⟩ := hrows
    rw [hpairs] at h
    refine ⟨vs, rfl, ?_⟩
    rw [← Except.ok.inj h]
    exact decide_eq_true_iff
  · rintro ⟨vs, rfl, hjudged⟩
    rw [hpairs]
    congr 1
    exact Bool.eq_iff_iff.mpr (decide_eq_true_iff.trans hjudged.symm)

/-- The value of a row at a pixel, if it has three entries or more. -/
def rowImage (r : List (PyFloat α)) (u v : PyFloat α) : Option (PyFloat α) :=
  match r with
  | a :: b :: c :: _ =>
    some ((FloatFormat.exact α).add
      ((FloatFormat.exact α).add ((FloatFormat.exact α).mul a u) ((FloatFormat.exact α).mul b v)) c)
  | _ => none

/-- A matrix projects a pixel, as it is, to a point: the rows that are read are there, and the
weight is not zero. -/
def Projects (homography : List (List (PyFloat α))) (u v x y : PyFloat α) : Prop :=
  ∃ p q w, homography[0]?.bind (rowImage · u v) = some p ∧
    homography[1]?.bind (rowImage · u v) = some q ∧
    homography[2]?.bind (rowImage · u v) = some w ∧ w ≠ .fin 0 ∧
    x = (FloatFormat.exact α).div p w ∧ y = (FloatFormat.exact α).div q w

lemma homogeneous_exact (homography : List (List (PyFloat α))) (i : ℕ) (u v : PyFloat α) :
    homogeneous (FloatFormat.exact α) homography i u v =
      (homography[i]?.bind (rowImage · u v)).elim (.error .indexError) .ok := by
  unfold homogeneous entry
  cases homography[i]? with
  | none => rfl
  | some r =>
    match r with
    | [] | [_] | [_, _] | _ :: _ :: _ :: _ => rfl

lemma pixelToMap_eq_ok {homography : List (List (PyFloat α))} {u v : ℤ} {rest : List ℤ}
    {x y : PyFloat α} :
    pixelToMap (FloatFormat.exact α) (u :: v :: rest) homography = .ok (x, y) ↔
      Projects homography (.fin (u : α)) (.fin (v : α)) x y := by
  unfold pixelToMap Projects
  dsimp only
  rw [VisualResolver.toFloat_int, VisualResolver.toFloat_int]
  simp only [bind, Except.bind, Except.mapError, homogeneous_exact]
  cases homography[2]?.bind (rowImage · (.fin (u : α)) (.fin (v : α))) with
  | none => simp
  | some w =>
    cases homography[0]?.bind (rowImage · (.fin (u : α)) (.fin (v : α))) with
    | none => simp
    | some p =>
      by_cases hw : w = .fin 0
      · simp [pyDiv, hw]
      · cases homography[1]?.bind (rowImage · (.fin (u : α)) (.fin (v : α))) with
        | none => simp [pyDiv, hw]
        | some q => simp [pyDiv, hw, pure, Except.pure, eq_comm]

/-- What the resolver maps, the plugin projects alike, up to the scaling of the pixel. -/
lemma projects_of_mapsTo {homography : List (List (PyFloat α))} (hregular : Regular homography)
    {u v x y : PyFloat α} (h : MapsTo homography u v x y) : Projects homography u v x y := by
  obtain ⟨hlength, hrows, -⟩ := hregular
  obtain ⟨r₀, r₁, r₂, rfl⟩ := VisualResolver.eq_of_length_three hlength
  rw [List.forall_mem_cons, List.forall_mem_cons, List.forall_mem_cons] at hrows
  obtain ⟨h₀, h₁, h₂, -⟩ := hrows
  obtain ⟨a, b, c, rfl⟩ := VisualResolver.eq_of_length_three h₀
  obtain ⟨d, e, f, rfl⟩ := VisualResolver.eq_of_length_three h₁
  obtain ⟨g, k, i, rfl⟩ := VisualResolver.eq_of_length_three h₂
  refine ⟨_, _, _, rfl, rfl, rfl, ?_, h.abscissa, h.ordinate⟩
  intro hzero
  have hfront : VisualResolver.tiny (FloatFormat.exact α) < .fin 0 := hzero ▸ h.in_front
  have hpos : (0 : α) < 1 / 10 ^ 12 := by positivity
  exact absurd hfront (not_lt.mpr hpos.le)

/-! ## The detection of a target -/

omit [Field α] [LinearOrder α] [IsStrictOrderedRing α] in
lemma get?_foldl_set_id (detections : List (Detection α)) (acc : Dict String (Detection α))
    (target : String) :
    (detections.foldl (fun acc d => acc.set d.id d) acc).get? target =
      (detections.reverse.find? fun d => d.id = target).or (acc.get? target) := by
  induction detections generalizing acc with
  | nil => rfl
  | cons d detections ih =>
    rw [List.foldl_cons, ih, Dict.get?_set, List.reverse_cons, List.find?_append, Option.or_assoc]
    congr 1
    by_cases htarget : target = d.id
    · rw [if_pos htarget, List.find?_cons_of_pos (by simp [htarget])]
      rfl
    · rw [if_neg htarget, List.find?_cons_of_neg (by simp [eq_comm, htarget])]
      rfl

omit [Field α] [LinearOrder α] [IsStrictOrderedRing α] in
/-- The dictionary of the plugin has the detection of every target but the empty one. -/
lemma get?_detectionsById (plan : RoboticsPlanDraft α) (target : String) :
    (detectionsById plan).get? target = if target = "" then none else detectionOf plan target := by
  unfold detectionsById detectionOf
  rw [get?_foldl_set_id, Dict.get?_empty, Option.or_none, ← List.filter_reverse, List.find?_filter]
  by_cases hempty : target = ""
  · rw [if_pos hempty, List.find?_eq_none]
    rintro d - h
    rw [hempty] at h
    simp at h
  · rw [if_neg hempty]
    congr 1
    funext d
    by_cases hid : d.id = target
    · simp [hid, hempty]
    · simp [hid]

/-! ## Agreement -/

/-- The resolver maps a pixel to a point inside the polygon. -/
def MapsInside (cal : Calibration α) (polygon : List (List (PyFloat α))) (pixel : List ℤ) : Prop :=
  Regular cal.homography ∧ ∃ x y, MapsPixel cal pixel x y ∧ InsidePolygon polygon x y

lemma resolverPoint_eq_some {cal : Calibration α} {pixel : List ℤ} {x y : PyFloat α} :
    resolverPoint (FloatFormat.exact α) cal pixel = some (x, y) ↔
      Regular cal.homography ∧ MapsPixel cal pixel x y := by
  unfold resolverPoint
  by_cases hregular : Regular cal.homography
  · rw [if_pos (VisualResolver.isValidHomography_iff.mpr hregular),
      ← VisualResolver.mapPoint_iff hregular]
    split
    · rename_i point hpoint
      rw [hpoint]
      simp [hregular]
    · rename_i hnot
      refine iff_of_false (fun h => by cases h) ?_
      rintro ⟨-, h⟩
      exact hnot _ h
  · rw [if_neg (mt VisualResolver.isValidHomography_iff.mp hregular)]
    exact iff_of_false (fun h => by cases h) fun h => hregular h.1

lemma resolver_pointInPolygon_iff {x y : PyFloat α} {polygon : List (List (PyFloat α))} :
    VisualResolver.pointInPolygon (FloatFormat.exact α) x y polygon = .ok true ↔
      InsidePolygon polygon x y := by
  obtain ⟨inside, hinside, hiff⟩ := VisualResolver.pointInPolygon_exact x y polygon
  rw [hinside, ← hiff, Except.ok.injEq]

lemma resolvedInside_iff {cal : Calibration α} {polygon : List (List (PyFloat α))}
    {plan : RoboticsPlanDraft α} {task : TaskNode} :
    ResolvedInside (FloatFormat.exact α) cal polygon plan task ↔
      ∃ target detection, task.target = some target ∧ detectionOf plan target = some detection ∧
        MapsInside cal polygon detection.pixel := by
  unfold ResolvedInside MapsInside
  simp only [resolverPoint_eq_some, resolver_pointInPolygon_iff]
  constructor
  · rintro ⟨target, detection, x, y, htarget, hdetection, ⟨hregular, hmaps⟩, hinside⟩
    exact ⟨target, detection, htarget, hdetection, hregular, x, y, hmaps, hinside⟩
  · rintro ⟨target, detection, htarget, hdetection, hregular, x, y, hmaps, hinside⟩
    exact ⟨target, detection, x, y, htarget, hdetection, ⟨hregular, hmaps⟩, hinside⟩

/-- The plugin and the resolver can be compared on a pixel.  The plugin can project it, and can read
the zone.  Where the resolver has no point for the pixel, the projection is not in the zone.  Where
it has one, the two points lie on the same side of the zone, which goes without saying for raw
pixels and a zone whose vertices are numbers. -/
def Comparable (cal : Calibration α) (polygon : List (List (PyFloat α))) (pixel : List ℤ) : Prop :=
  ∀ u v rest, pixel = u :: v :: rest →
    ∃ x y vs, Projects cal.homography (.fin (u : α)) (.fin (v : α)) x y ∧
      polygon = vs.map vertexRow ∧
      ((¬ ∃ p q, Regular cal.homography ∧ MapsPixel cal pixel p q) → ¬ Encloses vs x y) ∧
      ∀ p q, Regular cal.homography → MapsPixel cal pixel p q →
        (cal.pixelSpace = "raw" ∧ ∀ vertex ∈ vs, FiniteVertex vertex) ∨
          (Encloses vs x y ↔ InsidePolygon polygon p q)

omit [Field α] [LinearOrder α] [IsStrictOrderedRing α] in
lemma mapM_vertex?_map_vertexRow (vs : List (PyFloat α × PyFloat α)) :
    (vs.map vertexRow).mapM VisualResolver.vertex? = some vs := by
  induction vs with
  | nil => rfl
  | cons v vs ih =>
    rw [List.map_cons, List.mapM_cons, ih]
    rfl

/-- Of numbers the polygon is the same in both directions. -/
lemma encloses_iff_of_finite {vs : List (PyFloat α × PyFloat α)}
    (hfinite : ∀ vertex ∈ vs, FiniteVertex vertex) {x y : PyFloat α} (hy : y.isFinite = true) :
    Encloses vs x y ↔ InsidePolygon (vs.map vertexRow) x y := by
  have hcomm : ∀ a ∈ vs, ∀ b ∈ vs,
      crosses (FloatFormat.exact α) x y a b = crosses (FloatFormat.exact α) x y b a :=
    fun a ha b hb => crosses_comm hy (hfinite a ha) (hfinite b hb)
  have hnumber : crossingNumber (fun a b => crosses (FloatFormat.exact α) x y b a) vs =
      crossingNumber (crosses (FloatFormat.exact α) x y) vs :=
    crossingNumber_congr fun a ha b hb => hcomm b hb a ha
  constructor
  · intro hodd
    refine ⟨vs, mapM_vertex?_map_vertexRow vs, ?_, hnumber ▸ hodd⟩
    by_contra hshort
    refine not_odd_crossingNumber (not_le.mp hshort) ?_ hcomm hodd
    intro a _
    unfold crosses
    rw [straddles_self, Bool.false_and]
  · rintro ⟨vs', hvs', -, hodd⟩
    obtain rfl : vs = vs' := Option.some.inj ((mapM_vertex?_map_vertexRow vs).symm.trans hvs')
    unfold Encloses
    rw [← hnumber]
    exact hodd

lemma Projects.unique {homography : List (List (PyFloat α))} {u v x y x' y' : PyFloat α}
    (h : Projects homography u v x y) (h' : Projects homography u v x' y') : x = x' ∧ y = y' := by
  obtain ⟨p, q, w, hp, hq, hw, -, rfl, rfl⟩ := h
  obtain ⟨p', q', w', hp', hq', hw', -, rfl, rfl⟩ := h'
  obtain rfl := Option.some.inj (hp.symm.trans hp')
  obtain rfl := Option.some.inj (hq.symm.trans hq')
  obtain rfl := Option.some.inj (hw.symm.trans hw')
  exact ⟨rfl, rfl⟩

/-- A raw pixel is projected to the point that the resolver maps it to. -/
lemma projects_of_mapsPixel {cal : Calibration α} (hregular : Regular cal.homography)
    (hraw : cal.pixelSpace = "raw") {u v : ℤ} {rest : List ℤ} {p q : PyFloat α}
    (h : MapsPixel cal (u :: v :: rest) p q) :
    Projects cal.homography (.fin (u : α)) (.fin (v : α)) p q ∧ q.isFinite = true := by
  obtain ⟨u', v', rest', p', q', hpixel, hscaled, hmaps⟩ := h
  obtain ⟨rfl, htail⟩ := List.cons.inj hpixel
  obtain ⟨rfl, -⟩ := List.cons.inj htail
  rcases hscaled with ⟨-, rfl, rfl⟩ | ⟨hother, -⟩
  · exact ⟨projects_of_mapsTo hregular hmaps, hmaps.finite_y⟩
  · rw [hraw] at hother
    exact absurd hother (by decide)

lemma mapsInside_iff {cal : Calibration α} {polygon : List (List (PyFloat α))} {pixel : List ℤ}
    {p q : PyFloat α} (hregular : Regular cal.homography) (hmaps : MapsPixel cal pixel p q) :
    MapsInside cal polygon pixel ↔ InsidePolygon polygon p q := by
  constructor
  · rintro ⟨-, p', q', hmaps', hinside⟩
    have hpoint := (resolverPoint_eq_some.mpr ⟨hregular, hmaps⟩).symm.trans
      (resolverPoint_eq_some.mpr ⟨hregular, hmaps'⟩)
    obtain ⟨rfl, rfl⟩ := Prod.mk.inj (Option.some.inj hpoint)
    exact hinside
  · intro hinside
    exact ⟨hregular, p, q, hmaps, hinside⟩

/-- A pixel can be compared exactly when the plugin comes to the judgement of the resolver. -/
lemma comparable_iff {cal : Calibration α} {polygon : List (List (PyFloat α))} {u v : ℤ}
    {rest : List ℤ} :
    Comparable cal polygon (u :: v :: rest) ↔
      ∃ x y judged, Projects cal.homography (.fin (u : α)) (.fin (v : α)) x y ∧
        pointInPolygon (FloatFormat.exact α) x y polygon = .ok judged ∧
        (judged = true ↔ MapsInside cal polygon (u :: v :: rest)) := by
  constructor
  · intro hcomparable
    obtain ⟨x, y, vs, hprojects, rfl, hoff, hon⟩ := hcomparable u v rest rfl
    obtain ⟨judged, hjudged⟩ : ∃ judged : Bool, judged = true ↔ Encloses vs x y := by
      classical exact ⟨decide (Encloses vs x y), decide_eq_true_iff⟩
    refine ⟨x, y, judged, hprojects, pointInPolygon_eq_ok.mpr ⟨vs, rfl, hjudged⟩,
      hjudged.trans ?_⟩
    by_cases hmapped : ∃ p q, Regular cal.homography ∧ MapsPixel cal (u :: v :: rest) p q
    · obtain ⟨p, q, hregular, hmaps⟩ := hmapped
      rw [mapsInside_iff hregular hmaps]
      rcases hon p q hregular hmaps with ⟨hraw, hfinite⟩ | hsame
      · obtain ⟨hprojects', hq⟩ := projects_of_mapsPixel hregular hraw hmaps
        obtain ⟨rfl, rfl⟩ := hprojects.unique hprojects'
        exact encloses_iff_of_finite hfinite hq
      · exact hsame
    · refine iff_of_false (hoff hmapped) ?_
      rintro ⟨hregular, p, q, hmaps, -⟩
      exact hmapped ⟨p, q, hregular, hmaps⟩
  · rintro ⟨x, y, judged, hprojects, hjudged, hiff⟩ u' v' rest' hpixel
    obtain ⟨rfl, htail⟩ := List.cons.inj hpixel
    obtain ⟨rfl, rfl⟩ := List.cons.inj htail
    obtain ⟨vs, rfl, hencloses⟩ := pointInPolygon_eq_ok.mp hjudged
    refine ⟨x, y, vs, hprojects, rfl, ?_, ?_⟩
    · rintro hnone hinside
      obtain ⟨hregular, p, q, hmaps, -⟩ := hiff.mp (hencloses.mpr hinside)
      exact hnone ⟨p, q, hregular, hmaps⟩
    · intro p q hregular hmaps
      exact .inr (hencloses.symm.trans (hiff.trans (mapsInside_iff hregular hmaps)))

omit [Field α] [LinearOrder α] [IsStrictOrderedRing α] in
lemma mapError_eq_ok {β : Type*} {x : Except PyErr β} {b : β} :
    x.mapError RuleError.other = .ok b ↔ x = .ok b := by
  cases x with
  | error e => exact iff_of_false (fun h => by cases h) fun h => by cases h
  | ok a => exact (Except.ok.injEq a b).to_iff.trans (Except.ok.injEq a b).symm.to_iff

/-- The judgement about one pixel. -/
lemma judgement_of_pixel {cal : Calibration α} {polygon : List (List (PyFloat α))}
    {pixel : List ℤ} :
    (∃ judged,
      (if pixel.length < 2 then .ok false
        else (pixelToMap (FloatFormat.exact α) pixel cal.homography).bind fun point =>
          (pointInPolygon (FloatFormat.exact α) point.1 point.2 polygon).mapError .other) =
        (.ok judged : Except RuleError Bool) ∧
      (judged = true ↔ MapsInside cal polygon pixel)) ↔
    Comparable cal polygon pixel := by
  match pixel with
  | [] | [_] =>
    refine iff_of_true ⟨false, rfl, iff_of_false Bool.false_ne_true ?_⟩ ?_
    · rintro ⟨-, x, y, ⟨u, v, rest, p, q, hpixel, -⟩, -⟩
      cases hpixel
    · intro u v rest hpixel
      cases hpixel
  | u :: v :: rest =>
    rw [comparable_iff, if_neg (by simp)]
    constructor
    · rintro ⟨judged, hjudged, hiff⟩
      obtain ⟨⟨x, y⟩, hpoint, hjudged⟩ := exceptBind_eq_ok.mp hjudged
      refine ⟨x, y, judged, pixelToMap_eq_ok.mp hpoint, ?_, hiff⟩
      exact mapError_eq_ok.mp hjudged
    · rintro ⟨x, y, judged, hprojects, hjudged, hiff⟩
      refine ⟨judged, exceptBind_eq_ok.mpr ⟨(x, y), pixelToMap_eq_ok.mpr hprojects, ?_⟩, hiff⟩
      exact mapError_eq_ok.mpr hjudged

/-- What the target of one navigate task has to meet. -/
def TargetComparable (cal : Calibration α) (polygon : List (List (PyFloat α)))
    (plan : RoboticsPlanDraft α) (task : TaskNode) : Prop :=
  ∀ target detection, task.target = some target → detectionOf plan target = some detection →
    (target = "" → ¬ MapsInside cal polygon detection.pixel) ∧
      (target ≠ "" → Comparable cal polygon detection.pixel)

/-- The plugin judges one task like the resolver exactly when its target meets the condition. -/
lemma exists_judgement_iff {cal : Calibration α} {polygon : List (List (PyFloat α))}
    {plan : RoboticsPlanDraft α} {task : TaskNode} :
    (∃ judged, inZone (FloatFormat.exact α) ⟨polygon, cal.homography⟩ plan task = .ok judged ∧
      (judged = true ↔ ResolvedInside (FloatFormat.exact α) cal polygon plan task)) ↔
    TargetComparable cal polygon plan task := by
  rw [resolvedInside_iff]
  unfold TargetComparable inZone
  cases htarget : task.target with
  | none =>
    refine iff_of_true ⟨false, rfl, iff_of_false Bool.false_ne_true ?_⟩ ?_
    · rintro ⟨target, -, htarget', -⟩
      cases htarget'
    · intro target detection htarget'
      cases htarget'
  | some target =>
    rw [Option.bind_some, get?_detectionsById]
    by_cases hempty : target = ""
    · rw [if_pos hempty]
      constructor
      · rintro ⟨judged, hjudged, hiff⟩ target' detection htarget' hdetection
        obtain rfl := Option.some.inj htarget'
        refine ⟨fun _ hinside => ?_, fun hne => absurd hempty hne⟩
        obtain rfl : false = judged := Except.ok.inj hjudged
        exact Bool.false_ne_true (hiff.mpr ⟨target, detection, rfl, hdetection, hinside⟩)
      · intro hcondition
        refine ⟨false, rfl, iff_of_false Bool.false_ne_true ?_⟩
        rintro ⟨target', detection, htarget', hdetection, hinside⟩
        obtain rfl := Option.some.inj htarget'
        exact (hcondition target detection rfl hdetection).1 hempty hinside
    · rw [if_neg hempty]
      cases hdetection : detectionOf plan target with
      | none =>
        refine iff_of_true ⟨false, rfl, iff_of_false Bool.false_ne_true ?_⟩ ?_
        · rintro ⟨target', detection, htarget', hdetection', -⟩
          obtain rfl := Option.some.inj htarget'
          rw [hdetection] at hdetection'
          cases hdetection'
        · intro target' detection htarget' hdetection'
          obtain rfl := Option.some.inj htarget'
          rw [hdetection] at hdetection'
          cases hdetection'
      | some detection =>
        have honly : (∃ target' detection', some target = some target' ∧
            detectionOf plan target' = some detection' ∧
              MapsInside cal polygon detection'.pixel) ↔
            MapsInside cal polygon detection.pixel := by
          constructor
          · rintro ⟨target', detection', htarget', hdetection', hinside⟩
            obtain rfl := Option.some.inj htarget'
            obtain rfl := Option.some.inj (hdetection.symm.trans hdetection')
            exact hinside
          · intro hinside
            exact ⟨target, detection, rfl, hdetection, hinside⟩
        have hcondition : (∀ target' detection', some target = some target' →
            detectionOf plan target' = some detection' →
              (target' = "" → ¬ MapsInside cal polygon detection'.pixel) ∧
                (target' ≠ "" → Comparable cal polygon detection'.pixel)) ↔
            Comparable cal polygon detection.pixel := by
          constructor
          · intro h
            exact (h target detection rfl hdetection).2 hempty
          · intro h target' detection' htarget' hdetection'
            obtain rfl := Option.some.inj htarget'
            obtain rfl := Option.some.inj (hdetection.symm.trans hdetection')
            exact ⟨fun h' => absurd h' hempty, fun _ => h⟩
        rw [honly, hcondition]
        exact judgement_of_pixel

/-- A run over tasks judges each navigate task, and reports those it judges to be out. -/
lemma ruleLoop_eq_ok {repr : String → String} {plugin : ZonePolicyPlugin α}
    {plan : RoboticsPlanDraft α} {tasks : List TaskNode} {judged : List (TaskNode × Bool)}
    (htasks : judged.map Prod.fst = tasks.filter fun t => t.action = "navigate")
    (hjudged : ∀ j ∈ judged, inZone (FloatFormat.exact α) plugin plan j.1 = .ok j.2) :
    ruleLoop (FloatFormat.exact α) repr plugin plan tasks =
      .ok ((judged.filter fun j => !j.2).map fun j => zoneFinding repr j.1) := by
  induction tasks generalizing judged with
  | nil =>
    obtain rfl := List.map_eq_nil_iff.mp htasks
    rfl
  | cons task tasks ih =>
    unfold ruleLoop
    by_cases haction : task.action = "navigate"
    · rw [List.filter_cons_of_pos (by simpa using haction)] at htasks
      obtain ⟨⟨task', inside⟩, judged, rfl, rfl, hrest⟩ := List.map_eq_cons_iff.mp htasks
      obtain ⟨hhead, htail⟩ := List.forall_mem_cons.mp hjudged
      dsimp only at hhead haction
      rw [if_neg (not_not_intro haction), hhead, ih hrest htail]
      cases inside <;> rfl
    · rw [List.filter_cons_of_neg (by simpa using haction)] at htasks
      rw [if_pos haction]
      exact ih htasks hjudged

/-- The two agree on a plan when they agree on every navigate task. -/
lemma agrees_iff {repr : String → String} {cal : Calibration α}
    {polygon : List (List (PyFloat α))} {plan : RoboticsPlanDraft α} :
    Agrees (FloatFormat.exact α) repr cal polygon plan ↔
      ∀ task ∈ plan.taskGraph, task.action = "navigate" → ∃ judged,
        inZone (FloatFormat.exact α) ⟨polygon, cal.homography⟩ plan task = .ok judged ∧
          (judged = true ↔ ResolvedInside (FloatFormat.exact α) cal polygon plan task) := by
  constructor
  · rintro ⟨judged, htasks, -, hall⟩ task htask haction
    have hmem : task ∈ judged.map Prod.fst := by
      rw [htasks]
      exact List.mem_filter.mpr ⟨htask, decide_eq_true haction⟩
    obtain ⟨j, hj, rfl⟩ := List.mem_map.mp hmem
    exact ⟨j.2, hall j hj⟩
  · intro hall
    have hnavigate : ∀ task ∈ plan.taskGraph.filter fun t => t.action = "navigate", ∃ judged,
        inZone (FloatFormat.exact α) ⟨polygon, cal.homography⟩ plan task = .ok judged ∧
          (judged = true ↔ ResolvedInside (FloatFormat.exact α) cal polygon plan task) := by
      intro task htask
      obtain ⟨hmem, haction⟩ := List.mem_filter.mp htask
      exact hall task hmem (of_decide_eq_true haction)
    choose! judge hjudge using hnavigate
    refine ⟨(plan.taskGraph.filter fun t => t.action = "navigate").map fun t => (t, judge t),
      ?_, ?_, ?_⟩
    · rw [List.map_map]
      exact List.map_id _
    · refine ruleLoop_eq_ok ?_ ?_
      · rw [List.map_map]
        exact List.map_id _
      · intro j hj
        obtain ⟨task, htask, rfl⟩ := List.mem_map.mp hj
        exact (hjudge task htask).1
    · intro j hj
      obtain ⟨task, htask, rfl⟩ := List.mem_map.mp hj
      exact hjudge task htask

/-- A square zone around the origin. -/
def squareZone : List (List (PyFloat ℚ)) :=
  [[.fin (-1), .fin (-1)], [.fin 1, .fin (-1)], [.fin 1, .fin 1], [.fin (-1), .fin 1]]

/-- A plan that sends a robot to a box at a pixel. -/
def boxPlan (pixel : List ℤ) : RoboticsPlanDraft ℚ where
  planId := "plan_1"
  detections := [{ id := "red_box", pixel := pixel }]
  taskGraph := [{ id := "t1", robot := "bot1", action := "navigate", target := some "red_box" }]

/-- The raw pixels are the points of the map. -/
def identityCalibration : Calibration ℚ where
  homography := [[.fin 1, .fin 0, .fin 0], [.fin 0, .fin 1, .fin 0], [.fin 0, .fin 0, .fin 1]]
  validPolygon := squareZone

/-- A regular matrix that sends the first row of pixels to the horizon. -/
def horizonCalibration : Calibration ℚ where
  homography := [[.fin 1, .fin 0, .fin 0], [.fin 0, .fin 0, .fin 1], [.fin 0, .fin 1, .fin 0]]
  validPolygon := squareZone

end Judgement

end ZonePolicy

end MiniatureWarehouse
