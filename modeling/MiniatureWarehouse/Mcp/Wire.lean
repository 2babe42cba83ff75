import MiniatureWarehouse.Mcp.GateBookkeeping
import MiniatureWarehouse.Mcp.Tools
import Mathlib.Data.Finset.Sort
import Mathlib.Data.String.Basic

/-!
# The wire entry of the tools

`dispatch` takes the name of a tool and its arguments as they were decoded from JSON, and answers
with a dictionary that has a status.  Nothing has looked at the types of the arguments before, so
this file follows each of them as a `PyVal`: through the binding of keywords, the generation check,
the checks of the gate, and the bodies of the seven tools.

What the language raises on the way is part of the result.  `dispatch` turns a `TypeError` into an
answer of its own and lets everything else through.  The audit log is a sink here: it takes any
decoded value, and nothing reads it.
-/

namespace MiniatureWarehouse

namespace Wire

/-- `TOOL_NAMES`. -/
inductive ToolName
  | dispatchTask
  | cancelTask
  | getFleetStatus
  | getTaskQueue
  | sendToCharging
  | escalationResponse
  | startNegotiation
  deriving DecidableEq, Repr

namespace ToolName

/-- The tool of a name on the wire. -/
def ofString? : String → Option ToolName
  | "dispatch_task" => some dispatchTask
  | "cancel_task" => some cancelTask
  | "get_fleet_status" => some getFleetStatus
  | "get_task_queue" => some getTaskQueue
  | "send_to_charging" => some sendToCharging
  | "escalation_response" => some escalationResponse
  | "start_negotiation" => some startNegotiation
  | _ => none

/-- The tools that move a robot or stop one. -/
def isMotion : ToolName → Bool
  | dispatchTask | cancelTask | sendToCharging => true
  | _ => false

/-- The keywords a tool cannot be called without. -/
def required : ToolName → List String
  | cancelTask => ["task_id"]
  | sendToCharging => ["robot"]
  | escalationResponse => ["escalation_id", "action"]
  | startNegotiation => ["deadlock_or_escalation_id", "starter"]
  | dispatchTask | getFleetStatus | getTaskQueue => []

/-- The keywords a tool has a default for. -/
def optional : ToolName → List String
  | dispatchTask =>
    ["robot", "pickup", "dropoff", "priority", "via", "action", "duration", "idempotency_key"]
  | escalationResponse => ["new_robot", "reason", "idempotency_key"]
  | startNegotiation => ["context", "idempotency_key"]
  | cancelTask | sendToCharging | getFleetStatus | getTaskQueue => ["idempotency_key"]

end ToolName

section Values

variable {α : Type}

/-- A dictionary of decoded values, as its entries. -/
abbrev Fields (α : Type) := List (String × PyVal α)

/-- `v == s` for a text `s`. -/
def isText : PyVal α → String → Bool
  | .str s, t => s = t
  | _, _ => false

/-- `v is None`. -/
def isNull : PyVal α → Bool
  | .null => true
  | _ => false

/-- The text a value is, if it is one. -/
def text? : PyVal α → Option String
  | .str s => some s
  | _ => none

/-- A value that may be missing. -/
def present? : PyVal α → Option (PyVal α)
  | .null => none
  | v => some v

/-- Containers have no hash, so they are in no set and no key of a mapping. -/
def hashable : PyVal α → Bool
  | .list _ | .dict _ => false
  | _ => true

/-- `mapping.get(key)`. -/
def lookup (mapping : Fields α) : PyVal α → Check (PyVal α)
  | .str key => .ok ((Dict.find mapping key).getD .null)
  | key => if hashable key then .ok .null else .error (.raised .typeError)

/-- The keywords of a call fit the signature of the tool. -/
def ToolName.binds (tool : ToolName) (args : Dict String (PyVal α)) : Bool :=
  (args.entries.all fun e => tool.required.contains e.1 || tool.optional.contains e.1) &&
    tool.required.all args.contains

end Values

/-! ## The gate, on decoded values -/

section Gate

variable {α : Type}

/-- `check_location_known`; what passes is a name. -/
def checkLocationKnown : PyVal α → Check String
  | .null => .error (.reason .missingLocation)
  | .str name => if isKnownLocation name then .ok name else .error (.reason .unknownLocation)
  | name => if hashable name then .error (.reason .unknownLocation) else .error (.raised .typeError)

/-- The location stage of a dispatch, skipped for a wait. -/
def locationStage (robot pickup dropoff action : PyVal α) : Check Unit :=
  if isText action "wait" then refuseIf (isNull robot) .waitRequiresRobot
  else do
    let pickup ← match pickup with
      | .null => .ok none
      | pickup => (checkLocationKnown pickup).map some
    let dropoff ← checkLocationKnown dropoff
    checkSameLocation pickup (some dropoff)

/-- `check_duplicate_destination`, for the name the location stage has let through. -/
def checkDuplicateDestination (dropoff : PyVal α) (dropoffs : Dict String (PyVal α))
    (robot : PyVal α) : Check Unit :=
  match dropoff with
  | .str dropoff =>
    refuseIf (dropoffs.entries.any fun e => isText e.2 dropoff && !isText robot e.1)
      .duplicateDestination
  | _ => .ok ()

variable [Field α] [LinearOrder α] [IsStrictOrderedRing α] (F : FloatFormat α)
  (iso : IsoTimestamp α) (fresh : FreshnessThresholds α)

/-- The stage both validations share: the snapshot of the robot, once it is known to be fresh. -/
def freshSnapshot (r : Reading α) (robot : PyVal α) : Check (PyVal α) := do
  let state ← readState r.state
  let timestamp := Dict.find state "timestamp"
  refuseIf (timestampIsCorrupt iso timestamp) .stateTimestampCorrupt
  let robots ← mappingOrEmpty ((Dict.find state "robots").getD .null)
  let snapshot ← lookup robots robot
  let ts ← snapshotTs iso timestamp
  checkRobotState F fresh snapshot r.now ts
  return snapshot

/-- The robot stage of a dispatch, run only when a robot is named. -/
def robotStage (g : PolicyGate α (PyVal α)) (r : Reading α) : PyVal α → Check Unit
  | .null => .ok ()
  | robot => do
    let snapshot ← freshSnapshot F iso fresh r robot
    checkBattery ((snapshot.get? "battery").getD .null)
    match robot with
    | .str robot => do
      checkEmergency robot g.emergency
      checkRateLimit F robot g.lastCmd r.now
    -- only a text is a key of the tables
    | _ => .ok ()

/-- `_validate_dispatch_inner`. -/
def validateDispatchInner (g : PolicyGate α (PyVal α)) (r : Reading α)
    (robot pickup dropoff action : PyVal α) : Check Unit := do
  locationStage robot pickup dropoff action
  robotStage F iso fresh g r robot
  if isText action "deliver" then checkDuplicateDestination dropoff g.dropoffs robot

/-- `validate_and_register_dispatch`. -/
def validateAndRegisterDispatch (g : PolicyGate α (PyVal α)) (r : Reading α)
    (robot pickup dropoff action : PyVal α) : PolicyGate α (PyVal α) × DispatchResult :=
  g.registerIf (validateDispatchInner F iso fresh g r robot pickup dropoff action) (text? robot)
    (present? dropoff) r.now

omit [IsStrictOrderedRing α] in
/-- The battery rule of a charging dispatch: a robot that is charged enough is refused. -/
def checkChargingNeeded : PyVal α → Check Unit
  | .null => .ok ()
  | battery =>
    match battery.toNum? with
    | none => .error (.raised .typeError)
    | some pct =>
      refuseIf (decide (.fin chargingNotNeededAbove < pct.value)) .chargingNotNeeded

/-- The checks of a charging dispatch. -/
def validateChargingInner (g : PolicyGate α (PyVal α)) (r : Reading α) (robot : PyVal α) :
    Check Unit := do
  let snapshot ← freshSnapshot F iso fresh r robot
  match robot with
  | .str robot => checkEmergency robot g.emergency
  | _ => .ok ()
  checkChargingNeeded ((snapshot.get? "battery").getD .null)

/-- `validate_and_register_charging`. -/
def validateAndRegisterCharging (g : PolicyGate α (PyVal α)) (r : Reading α) (robot : PyVal α) :
    PolicyGate α (PyVal α) × DispatchResult :=
  g.registerIf (validateChargingInner F iso fresh g r robot) (text? robot)
    (some (.str "charging_station")) r.now

end Gate

/-! ## The tools -/

/-- `WarehouseTools`: the stores of the generation check, the gate, the escalations with their
resolved marks, and the number of the last negotiation. -/
structure WarehouseTools (α : Type) where
  stores : Stores α
  gate : PolicyGate α (PyVal α)
  escalations : Dict String Bool
  negotiationSeq : ℕ

/-- A request to the bridge. -/
structure Request (α : Type) where
  path : String
  body : Fields α

section Tools

variable {α : Type}

/-- The three kinds of answer. -/
def okStatus (fields : Fields α) : Fields α := ("status", .str "ok") :: fields

def rejectedStatus (reason : String) (fields : Fields α) : Fields α :=
  ("status", .str "rejected") :: ("reason", .str reason) :: fields

def errorStatus (reason : String) : Fields α :=
  [("status", .str "error"), ("reason", .str reason)]

/-- `result.get("status") == "ok"`. -/
def isOk (result : Fields α) : Bool := isText ((Dict.find result "status").getD .null) "ok"

/-- `_gen_reject`. -/
def genReject (reason : GenReason) (gen key : PyVal α) : Fields α :=
  match reason with
  | .duplicateCommand => rejectedStatus "duplicate_command" [("idempotency_key", key)]
  | .staleGeneration => rejectedStatus "stale_generation" [("received_gen", gen)]

/-- The answer for a check that did not pass. -/
def ofRefusal (fields : Fields α) : Refusal → Except PyErr (Fields α)
  | .reason r => .ok (rejectedStatus r.text fields)
  | .raised e => .error e

/-- The answer for a check that puts the fields together itself. -/
def ofCheck : Check (Fields α) → Except PyErr (Fields α)
  | .error refusal => ofRefusal [] refusal
  | .ok fields => .ok fields

/-- The answer for an outcome of the gate. -/
def ofDispatch (fields : Fields α) (payload : String → Fields α) :
    DispatchResult → Except PyErr (Fields α)
  | .error refusal => ofRefusal fields refusal
  | .ok taskId => .ok (okStatus (payload taskId))

/-- `cancel_task`, past the generation check: only a text has a prefix. -/
def cancelTask (w : WarehouseTools α) (args : Dict String (PyVal α)) :
    WarehouseTools α × Except PyErr (Fields α) :=
  match args.getD "task_id" .null with
  | .str taskId =>
    match currentRobot? taskId with
    | some robot =>
      let (gate, resolved) := w.gate.resolveAndClearActive robot
      ({ w with gate }, .ok <| match resolved with
        | none => rejectedStatus "no_active_task" [("robot", .str robot)]
        | some resolved => okStatus [("task_id", .str resolved), ("robot", .str robot)])
    | none =>
      let (gate, robot) := w.gate.resolveAndClearByTaskId taskId
      ({ w with gate },
        .ok (okStatus [("task_id", .str taskId), ("robot", robot.elim .null .str)]))
  | _ => (w, .error .attributeError)

/-- `get_task_queue`, past the generation check. -/
def getTaskQueue (w : WarehouseTools α) : Fields α :=
  okStatus [("active", .dict (w.gate.activeTasks.entries.map fun e => (e.1, .str e.2))),
    ("pending", .list []), ("recent", .list [])]

/-- `ESCALATION_ACTIONS`. -/
def escalationActions : List String := ["reassign", "cancel", "retry"]

/-- `escalation_response`, past the generation check. -/
def escalationResponse (w : WarehouseTools α) (args : Dict String (PyVal α)) :
    WarehouseTools α × Except PyErr (Fields α) :=
  let action := args.getD "action" .null
  let escalationId := args.getD "escalation_id" .null
  if !escalationActions.any (isText action) then
    (w, .ok (rejectedStatus "unknown_action" [("action", action)]))
  else if !hashable escalationId then (w, .error .typeError)
  else
    match (text? escalationId).bind w.escalations.get? with
    | none => (w, .ok (rejectedStatus "unknown_escalation_id" []))
    | some true => (w, .ok (rejectedStatus "already_resolved" [("escalation_id", escalationId)]))
    | some false =>
      ({ w with escalations := w.escalations.set ((text? escalationId).getD "") true },
        .ok (okStatus [("escalation_id", escalationId), ("action", action),
          ("new_robot", args.getD "new_robot" .null), ("reason", args.getD "reason" (.str ""))]))

/-- `NEGOTIATION_STARTERS`. -/
def negotiationStarters : List String := ["bot1", "bot2"]

/-- `start_negotiation`, past the generation check; what the publisher raises is logged. -/
def startNegotiation (w : WarehouseTools α) (args : Dict String (PyVal α)) :
    WarehouseTools α × Except PyErr (Fields α) :=
  let starter := args.getD "starter" .null
  if !negotiationStarters.any (isText starter) then
    (w, .ok (rejectedStatus "unknown_starter" [("starter", starter)]))
  else
    let seq := w.negotiationSeq + 1
    ({ w with negotiationSeq := seq },
      .ok (okStatus [("negotiation_id", .str ("nego_" ++ format03d seq)),
        ("deadlock_or_escalation_id", args.getD "deadlock_or_escalation_id" .null),
        ("starter", starter), ("context", args.getD "context" (.str ""))]))

/-- `plan_nav2_request`. -/
def planNav2Request (tool : ToolName) (result : Fields α) : Option (Request α) :=
  let field name := (Dict.find result name).bind present?
  match tool with
  | .dispatchTask => do
    let robot ← field "robot"
    if isText ((Dict.find result "action").getD .null) "wait" then
      let duration ← field "duration"
      return ⟨"/api/v1/wait", [("robot", robot), ("duration", duration)]⟩
    else
      let destination ← field "dropoff"
      return ⟨"/api/v1/navigate", [("robot", robot), ("destination", destination)] ++
        ((field "via").map fun via => ("via", via)).toList⟩
  | .sendToCharging => do
    let robot ← field "robot"
    let destination ← field "dropoff"
    return ⟨"/api/v1/navigate", [("robot", robot), ("destination", destination)]⟩
  | .cancelTask => do
    let robot ← field "robot"
    return ⟨"/api/v1/stop", [("robot", robot)]⟩
  | _ => none

/-- `_maybe_forward`, with a forwarder wired; what the forwarder raises is logged. -/
def maybeForward (name : String) (result : Except PyErr (Fields α)) : Option (Request α) :=
  match ToolName.ofString? name, result with
  | some tool, .ok fields => if isOk fields then planNav2Request tool fields else none
  | _, _ => none

variable [Field α] [LinearOrder α]

/-- `v or {}`. -/
def orEmpty : PyVal α → PyVal α
  | .null | .bool false | .int 0 | .str "" | .list [] => .dict []
  | .float x => if x = .fin 0 then .dict [] else .float x
  | v => v

/-- `len(v)`. -/
def len : PyVal α → Check ℕ
  | .str s => .ok s.length
  | .list xs => .ok xs.length
  | .dict es => .ok es.length
  | _ => .error (.raised .typeError)

/-- `EMERGENCY_HISTORY_LLM_MAX`. -/
def emergencyHistoryLlmMax : ℕ := 10

/-- `v if isinstance(v, list) else []`. -/
def listOrEmpty : Option (PyVal α) → List (PyVal α)
  | some (.list xs) => xs
  | _ => []

/-- `get_fleet_status`, past the generation check; the entry of the audit log counts the robots. -/
def getFleetStatus (w : WarehouseTools α) (r : Reading α) : Check (Fields α) := do
  let state ← readState r.state
  let robots := orEmpty ((Dict.find state "robots").getD .null)
  let ring := match Dict.find state "emergency" with
    | some (.dict es) => es
    | _ => []
  let history := listOrEmpty (Dict.find ring "history")
  let _ ← len robots
  return okStatus [("timestamp", (Dict.find state "timestamp").getD .null), ("robots", robots),
    ("emergency", .dict [("active", .list (listOrEmpty (Dict.find ring "active"))),
      ("history", .list (history.drop (history.length - emergencyHistoryLlmMax)))]),
    ("l2_emergency_holds", .list ((w.gate.emergency.sort (· ≤ ·)).map .str))]

variable [IsStrictOrderedRing α] (F : FloatFormat α) (iso : IsoTimestamp α)
  (fresh : FreshnessThresholds α) (reprFloat : PyFloat α → String) (window : ℕ)

/-- `dispatch_task`, past the generation check. -/
def dispatchTask (w : WarehouseTools α) (r : Reading α) (args : Dict String (PyVal α)) :
    WarehouseTools α × Except PyErr (Fields α) :=
  let robot := args.getD "robot" .null
  let dropoff := args.getD "dropoff" .null
  let action := args.getD "action" (.str "deliver")
  let (gate, result) := validateAndRegisterDispatch F iso fresh w.gate r robot
    (args.getD "pickup" .null) dropoff action
  ({ w with gate }, ofDispatch [] (fun taskId => [("task_id", .str taskId), ("robot", robot),
    ("action", action), ("dropoff", dropoff), ("via", args.getD "via" .null),
    ("priority", args.getD "priority" (.str "normal")),
    ("duration", args.getD "duration" .null)]) result)

/-- `send_to_charging`, past the generation check. -/
def sendToCharging (w : WarehouseTools α) (r : Reading α) (args : Dict String (PyVal α)) :
    WarehouseTools α × Except PyErr (Fields α) :=
  let robot := args.getD "robot" .null
  let (gate, result) := validateAndRegisterCharging F iso fresh w.gate r robot
  ({ w with gate }, ofDispatch [("robot", robot)] (fun taskId => [("task_id", .str taskId),
    ("robot", robot), ("dropoff", .str "charging_station")]) result)

/-- A tool, past the generation check. -/
def runTool (w : WarehouseTools α) (r : Reading α) (args : Dict String (PyVal α)) :
    ToolName → WarehouseTools α × Except PyErr (Fields α)
  | .dispatchTask => dispatchTask F iso fresh w r args
  | .cancelTask => cancelTask w args
  | .getFleetStatus => (w, ofCheck (getFleetStatus w r))
  | .getTaskQueue => (w, .ok (getTaskQueue w))
  | .sendToCharging => sendToCharging F iso fresh w r args
  | .escalationResponse => escalationResponse w args
  | .startNegotiation => startNegotiation w args

/-- A tool method: its keywords are bound, then the generation check comes first. -/
def callTool (w : WarehouseTools α) (r : Reading α) (tool : ToolName) (gen : PyVal α)
    (args : Dict String (PyVal α)) : WarehouseTools α × Except PyErr (Fields α) :=
  if !tool.binds args then (w, .error .typeError)
  else
    let key := args.getD "idempotency_key" .null
    let (stores, checked) := w.stores.check F reprFloat window gen key
    match checked with
    | .error e => ({ w with stores }, .error e)
    | .ok ⟨some reason, _⟩ => ({ w with stores }, .ok (genReject reason gen key))
    | .ok ⟨none, _⟩ => runTool F iso fresh { w with stores } r args tool

omit [Field α] [LinearOrder α] [IsStrictOrderedRing α] in
/-- The one exception `dispatch` catches; of its text only the prefix is kept. -/
def catchTypeError : Except PyErr (Fields α) → Except PyErr (Fields α)
  | .error .typeError => .ok (errorStatus "bad_arguments:")
  | result => result

/-- `dispatch`. -/
def dispatch (w : WarehouseTools α) (r : Reading α) (name : String)
    (arguments : Dict String (PyVal α)) : WarehouseTools α × Except PyErr (Fields α) :=
  match ToolName.ofString? name with
  | none => (w, .ok (errorStatus ("unknown_tool:" ++ name)))
  | some tool =>
    match arguments.getD "gen_id" .null with
    | .null => (w, .ok (rejectedStatus "missing_gen_id" []))
    | gen =>
      let (w, result) := callTool F iso fresh reprFloat window w r tool gen
        (arguments.erase "gen_id")
      (w, catchTypeError result)

end Tools

end Wire

end MiniatureWarehouse
