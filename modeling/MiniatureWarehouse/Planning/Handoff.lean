import MiniatureWarehouse.Framework.Text
import MiniatureWarehouse.Planning.PlanFormat

/-!
# The handoff from the model to the planning core

The raw output of the planner arrives in one of two transport envelopes, or already as a plan.
The handoff unwraps it, refuses a plan of an unknown version or with a forbidden field name
anywhere in it, and only then has the draft validated.

A draft leaves this stage only by the last line of `toRoboticsPlanDraft`; every other way out is
an exception.  Almost all of them are `ValueError`s.  A `TypeError` escapes where a text part of
an envelope is not a text or the version is a container, and a `RecursionError` where the decoder
gives up.
-/

namespace MiniatureWarehouse

namespace Handoff

variable {α : Type*}

/-! ## The envelope -/

/-- `v[0]`, nothing where the language raises. -/
def first? : PyVal α → Option (PyVal α)
  | .list (v :: _) => some v
  | .str s => s.toList.head?.map fun c => .str (String.singleton c)
  | _ => none

/-- `payload[key][0]["..."]...`: a path through an envelope; any step that raises makes the
envelope malformed. -/
def envelopePath (payload : List (String × PyVal α)) (key : String) (path : List String) :
    Except PyErr (PyVal α) :=
  let start := (Dict.find payload key).bind first?
  match path.foldl (fun v name => v.bind fun v => v.get? name) start with
  | some v => .ok v
  | none => .error .valueError

/-- `_first_choice_content`. -/
def firstChoiceContent (payload : List (String × PyVal α)) : Except PyErr (PyVal α) :=
  envelopePath payload "choices" ["message", "content"]

/-- The text parts of a candidate; what cannot be iterated over raises. -/
def textParts : PyVal α → Except PyErr (List (PyVal α))
  | .list parts => .ok (parts.filterMap fun p => p.get? "text")
  | .dict _ | .str _ => .ok []
  | _ => .error .typeError

/-- `"".join(texts)`. -/
def joinTexts : List (PyVal α) → Except PyErr String
  | [] => .ok ""
  | .str s :: texts => (joinTexts texts).map fun rest => s ++ rest
  | _ => .error .typeError

/-- `_first_candidate_text`. -/
def firstCandidateText (payload : List (String × PyVal α)) : Except PyErr (PyVal α) := do
  let parts ← envelopePath payload "candidates" ["content", "parts"]
  let texts ← textParts parts
  if texts.isEmpty then .error .valueError else (joinTexts texts).map .str

/-- Does a text start with a code fence? -/
def startsFence (s : List Char) : Bool := "```".toList.isPrefixOf s

/-- `_strip_code_fence`: one outer fence is removed, with whatever its first line says. -/
def stripCodeFence (text : String) : String :=
  let t := Text.strip text.toList
  if startsFence t then
    let lines := Text.splitlines t
    let lines := match lines with
      | [] => []
      | line :: rest => if startsFence line then rest else line :: rest
    let lines := match lines.getLast? with
      | some line => if Text.strip line = "```".toList then lines.dropLast else lines
      | none => lines
    String.ofList (Text.strip (Text.joinLines lines))
  else String.ofList t

/-- `_coerce_plan_dict`. -/
def coercePlanDict (scan : JsonScan α) : PyVal α → Except PyErr (List (String × PyVal α))
  | .dict es => .ok es
  | .str s =>
    match scan.loads (stripCodeFence s) with
    | .error e => .error e.toPyErr
    | .ok (.dict es) => .ok es
    | .ok _ => .error .valueError
  | _ => .error .valueError

/-- `_looks_like_plan`. -/
def looksLikePlan (payload : List (String × PyVal α)) : Bool :=
  (Dict.find payload "schema_version").isSome || (Dict.find payload "task_graph").isSome

/-- `extract_plan_content`. -/
def extractPlanContent (scan : JsonScan α) (payload : List (String × PyVal α)) :
    Except PyErr (List (String × PyVal α)) :=
  if (Dict.find payload "choices").isSome then
    (firstChoiceContent payload).bind (coercePlanDict scan)
  else if (Dict.find payload "candidates").isSome then
    (firstCandidateText payload).bind (coercePlanDict scan)
  else if looksLikePlan payload then .ok payload
  else .error .valueError

/-! ## The acceptance gates -/

/-- `_reject_unknown_schema_version`; a container cannot be looked up in a set. -/
def rejectUnknownSchemaVersion (plan : List (String × PyVal α)) : Except PyErr Unit :=
  match Dict.find plan "schema_version" with
  | some (.str version) =>
    if version = roboticsPlanDraftVersion then .ok () else .error .valueError
  | some (.list _) | some (.dict _) => .error .typeError
  | _ => .error .valueError

/-- `_FORBIDDEN_KEY_RULES`, in the order they are tried. -/
def forbiddenKeyRules : List (String × List String) :=
  [("forbidden_endpoint",
      ["endpoint", "url", "nav2", "ros_topic", "topic", "mcp_tool", "jetson", "service"]),
    ("low_level_action_present",
      ["velocity", "cmd_vel", "motor", "pwm", "duty", "joint", "torque", "wheel", "linear",
        "angular", "twist"]),
    ("coordinate_goal_unfrozen", ["goal", "waypoint", "coordinate"])]

/-- `_forbidden_reason`.  Lowering the ASCII letters is enough: the only other characters that
lower to an ASCII letter give a `k`, which no rule contains, or an `i` followed by a mark. -/
def forbiddenReason (key : String) : Option String :=
  let lowered := key.toList.map Char.toLower
  (forbiddenKeyRules.find? fun rule =>
    rule.2.any fun sub => Text.contains lowered sub.toList).map Prod.fst

mutual

/-- `_scan_forbidden`: every forbidden name in a value, at any depth, with its reason. -/
def scanForbidden : PyVal α → List (String × String)
  | .list vs => scanForbiddenList vs
  | .dict es => scanForbiddenEntries es
  | _ => []

/-- `_scan_forbidden` on the items of a list. -/
def scanForbiddenList : List (PyVal α) → List (String × String)
  | [] => []
  | v :: vs => scanForbidden v ++ scanForbiddenList vs

/-- `_scan_forbidden` on the entries of a mapping. -/
def scanForbiddenEntries : List (String × PyVal α) → List (String × String)
  | [] => []
  | (key, v) :: es =>
    (match forbiddenReason key with
      | some reason => [(reason, key)]
      | none => []) ++ scanForbidden v ++ scanForbiddenEntries es

end

/-- `_reject_forbidden_fields`. -/
def rejectForbiddenFields (plan : List (String × PyVal α)) : Except PyErr Unit :=
  if (scanForbiddenEntries plan).isEmpty then .ok () else .error .valueError

/-- `RoboticsPlanDraft.model_validate`, whose failure is a `ValueError`. -/
def modelValidate (model : DraftModel α) (plan : List (String × PyVal α)) :
    Except PyErr (RoboticsPlanDraft α) :=
  match model.validate plan with
  | some draft => .ok draft
  | none => .error .valueError

/-- `to_robotics_plan_draft`. -/
def toRoboticsPlanDraft (scan : JsonScan α) (model : DraftModel α)
    (payload : List (String × PyVal α)) : Except PyErr (RoboticsPlanDraft α) :=
  (extractPlanContent scan payload).bind fun plan =>
  (rejectUnknownSchemaVersion plan).bind fun _ =>
  (rejectForbiddenFields plan).bind fun _ =>
  modelValidate model plan

end Handoff

end MiniatureWarehouse
