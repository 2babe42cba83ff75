import MiniatureWarehouse.Planning.TaskGraph

/-!
# The plan draft as a document

A draft is read from a decoded document and written back as one between two stages of the
planning core.  The reader is the validation of the data-model library: `DraftModel` is any
reader that accepts what the writer writes, which is all the pipeline rests on.  The library also
converts between types where that loses nothing, and the strict reader below, which accepts only
exact types, is one of its instances.
-/

namespace MiniatureWarehouse

/-- `ROBOTICS_PLAN_DRAFT_VERSION`, the one supported version. -/
def roboticsPlanDraftVersion : String := "robotics_plan_draft.v0"

namespace PlanFormat

variable {α : Type*}

/-! ## Writing -/

/-- An optional text. -/
def dumpText : Option String → PyVal α
  | none => .null
  | some s => .str s

/-- An optional number. -/
def dumpFloat : Option (PyFloat α) → PyVal α
  | none => .null
  | some x => .float x

/-- `InputRefs.model_dump`. -/
def dumpInputRefs (r : InputRefs) : PyVal α :=
  .dict [("audio", dumpText r.audio), ("image", dumpText r.image), ("state", dumpText r.state)]

/-- `Detection.model_dump`. -/
def dumpDetection (d : Detection α) : PyVal α :=
  .dict [("id", .str d.id), ("color", dumpText d.color), ("pixel", .list (d.pixel.map .int)),
    ("confidence", dumpFloat d.confidence)]

/-- `TaskNode.model_dump`. -/
def dumpNode (n : TaskNode) : PyVal α :=
  .dict [("id", .str n.id), ("robot", .str n.robot), ("action", .str n.action),
    ("target", dumpText n.target), ("after", dumpText n.after)]

/-- `RoboticsPlanDraft.model_dump`, as the entries of the mapping it is. -/
def dumpDraft (p : RoboticsPlanDraft α) : List (String × PyVal α) :=
  [("schema_version", .str roboticsPlanDraftVersion), ("plan_id", .str p.planId),
    ("source_model", dumpText p.sourceModel), ("input_refs", dumpInputRefs p.inputRefs),
    ("transcript", dumpText p.transcript), ("interpreted_intent", dumpText p.interpretedIntent),
    ("detections", .list (p.detections.map dumpDetection)),
    ("task_graph", .list (p.taskGraph.map dumpNode)),
    ("operator_clarification_required", .bool p.operatorClarificationRequired)]

/-! ## Strict reading -/

/-- A required text. -/
def readStr : Option (PyVal α) → Option String
  | some (.str s) => some s
  | _ => none

/-- An optional text, absent or null. -/
def readText : Option (PyVal α) → Option (Option String)
  | none | some .null => some none
  | some (.str s) => some (some s)
  | _ => none

/-- An optional number, absent or null. -/
def readFloat : Option (PyVal α) → Option (Option (PyFloat α))
  | none | some .null => some none
  | some (.float x) => some (some x)
  | _ => none

/-- A boolean that defaults to false. -/
def readBool : Option (PyVal α) → Option Bool
  | none => some false
  | some (.bool b) => some b
  | _ => none

/-- An integer. -/
def readInt : PyVal α → Option ℤ
  | .int i => some i
  | _ => none

/-- A list that defaults to the empty one. -/
def readList {β : Type*} (read : PyVal α → Option β) : Option (PyVal α) → Option (List β)
  | none => some []
  | some (.list vs) => vs.mapM read
  | _ => none

/-- The references of a draft, by default none. -/
def readInputRefs : Option (PyVal α) → Option InputRefs
  | none => some {}
  | some (.dict es) =>
    (readText (Dict.find es "audio")).bind fun audio =>
    (readText (Dict.find es "image")).bind fun image =>
    (readText (Dict.find es "state")).map fun state => ⟨audio, image, state⟩
  | _ => none

/-- A detection. -/
def readDetection : PyVal α → Option (Detection α)
  | .dict es =>
    (readStr (Dict.find es "id")).bind fun id =>
    (readText (Dict.find es "color")).bind fun color =>
    (readList readInt (Dict.find es "pixel")).bind fun pixel =>
    (readFloat (Dict.find es "confidence")).map fun confidence => ⟨id, color, pixel, confidence⟩
  | _ => none

/-- A task node. -/
def readNode : PyVal α → Option TaskNode
  | .dict es =>
    (readStr (Dict.find es "id")).bind fun id =>
    (readStr (Dict.find es "robot")).bind fun robot =>
    (readStr (Dict.find es "action")).bind fun action =>
    (readText (Dict.find es "target")).bind fun target =>
    (readText (Dict.find es "after")).map fun after => ⟨id, robot, action, target, after⟩
  | _ => none

/-- The schema version defaults to the supported one, and no other is accepted. -/
def versionSupported : Option (PyVal α) → Bool
  | none => true
  | some (.str s) => s = roboticsPlanDraftVersion
  | _ => false

/-- A draft from the entries of a mapping; entries of other names are ignored. -/
def readDraft (es : List (String × PyVal α)) : Option (RoboticsPlanDraft α) :=
  if versionSupported (Dict.find es "schema_version") then
    (readStr (Dict.find es "plan_id")).bind fun planId =>
    (readText (Dict.find es "source_model")).bind fun sourceModel =>
    (readInputRefs (Dict.find es "input_refs")).bind fun inputRefs =>
    (readText (Dict.find es "transcript")).bind fun transcript =>
    (readText (Dict.find es "interpreted_intent")).bind fun intent =>
    (readList readDetection (Dict.find es "detections")).bind fun detections =>
    (readList readNode (Dict.find es "task_graph")).bind fun taskGraph =>
    (readBool (Dict.find es "operator_clarification_required")).map fun clarification =>
      ⟨planId, sourceModel, inputRefs, transcript, intent, detections, taskGraph, clarification⟩
  else none

/-! ## The round trip -/

@[simp] theorem readText_dumpText (t : Option String) :
    readText (some (dumpText t : PyVal α)) = some t := by
  cases t <;> rfl

@[simp] theorem readFloat_dumpFloat (t : Option (PyFloat α)) :
    readFloat (some (dumpFloat t)) = some t := by
  cases t <;> rfl

/-- A list is read back when each of its elements is. -/
theorem readList_map {β : Type*} {read : PyVal α → Option β} {dump : β → PyVal α}
    (h : ∀ b, read (dump b) = some b) (bs : List β) :
    readList read (some (.list (bs.map dump))) = some bs := by
  have hmap : (bs.map dump).mapM read = some bs := by
    induction bs with
    | nil => rfl
    | cons b bs ih =>
      rw [List.map_cons, List.mapM_cons, h b, ih]
      rfl
  exact hmap

theorem readDetection_dump (d : Detection α) : readDetection (dumpDetection d) = some d := by
  have hint : ∀ i, readInt (PyVal.int i : PyVal α) = some i := fun _ => rfl
  have hpixel : readList readInt (some (.list (d.pixel.map (PyVal.int : ℤ → PyVal α)))) =
      some d.pixel := readList_map hint d.pixel
  simp [readDetection, dumpDetection, Dict.find, readStr, hpixel]

theorem readNode_dump (n : TaskNode) : readNode (dumpNode n : PyVal α) = some n := by
  simp [readNode, dumpNode, Dict.find, readStr]

theorem readInputRefs_dump (r : InputRefs) :
    readInputRefs (some (dumpInputRefs r : PyVal α)) = some r := by
  simp [readInputRefs, dumpInputRefs, Dict.find]

/-- **Round trip.**  What a stage writes, the next one reads back unchanged. -/
theorem readDraft_dump (p : RoboticsPlanDraft α) : readDraft (dumpDraft p) = some p := by
  have hdetections : readList readDetection (some (.list (p.detections.map dumpDetection))) =
      some p.detections := readList_map readDetection_dump p.detections
  have hgraph : readList readNode (some (.list (p.taskGraph.map (dumpNode (α := α))))) =
      some p.taskGraph := readList_map readNode_dump p.taskGraph
  simp [readDraft, dumpDraft, Dict.find, versionSupported, readStr, readBool, hdetections, hgraph,
    readInputRefs_dump]

end PlanFormat

/-- `RoboticsPlanDraft.model_validate` of the data-model library, as far as the pipeline relies on
it: a draft that was written is read back. -/
structure DraftModel (α : Type*) where
  validate : List (String × PyVal α) → Option (RoboticsPlanDraft α)
  validate_dump : ∀ p, validate (PlanFormat.dumpDraft p) = some p

/-- The reader that converts no types. -/
def DraftModel.strict (α : Type*) : DraftModel α :=
  ⟨PlanFormat.readDraft, PlanFormat.readDraft_dump⟩

end MiniatureWarehouse
