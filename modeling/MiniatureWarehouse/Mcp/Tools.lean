import MiniatureWarehouse.Mcp.GenCheck
import MiniatureWarehouse.Mcp.PolicyGate
import MiniatureWarehouse.Nav2Bridge.Core

/-!
# The tools of the warehouse server

A tool call runs the generation check, then the policy gate, and answers with a status.  Only an
accepted call that moves a robot is turned into a request to the navigation bridge, and what the
bridge answers is logged and dropped: the status of the call has already been decided.

Three of the seven tools move a robot or stop one.  The others read, respond to an escalation or
start a negotiation; none of them touches the gate, and no request comes of them.
-/

namespace MiniatureWarehouse

/-- A call of a tool, its generation and idempotency key apart. -/
inductive ToolCall (α : Type)
  | dispatchTask (robot pickup dropoff via : Option String) (action : String)
      (duration : Option (PyFloat α))
  | cancelTask (taskId : String)
  | sendToCharging (robot : String)
  | passive

/-- The payload of an accepted call, as far as the request is planned from it. -/
structure Payload (α : Type) where
  taskId : String
  robot : Option String
  action : Option String
  dropoff : Option String
  via : Option String
  duration : Option (PyFloat α)

/-- What a call answers: a payload, a refusal with its reason, or an exception.  A `TypeError` is
reported as bad arguments, any other exception escapes; neither is forwarded. -/
inductive ToolResult (α : Type)
  | ok (payload : Payload α)
  | rejected (reason : String)
  | error (e : PyErr)
  | read

/-- A request to the bridge, named by the last part of its path. -/
inductive Nav2Request (α : Type)
  | navigate (robot destination : String) (via : Option String)
  | wait (robot : String) (duration : PyFloat α)
  | stop (robot : String)

section Tools

variable {α : Type}

/-- The reason a failed generation check is answered with. -/
def GenReason.text : GenReason → String
  | .staleGeneration => "stale_generation"
  | .duplicateCommand => "duplicate_command"

/-- The answer for an outcome of the gate. -/
def ToolResult.ofDispatch (payload : String → Payload α) : DispatchResult → ToolResult α
  | .ok taskId => .ok (payload taskId)
  | .error (.reason r) => .rejected r.text
  | .error (.raised e) => .error e

/-- The robot of a `current:` cancel; any other text is a task id. -/
def currentRobot? (taskId : String) : Option String :=
  if "current:".toList.isPrefixOf taskId.toList then
    some (String.ofList (taskId.toList.drop "current:".length))
  else none

/-- `cancel_task`, past the generation check. -/
def cancelTask (g : PolicyGate α) (taskId : String) : PolicyGate α × ToolResult α :=
  match currentRobot? taskId with
  | some robot =>
    let (g, resolved) := g.resolveAndClearActive robot
    (g, match resolved with
      | some resolved => .ok ⟨resolved, some robot, none, none, none, none⟩
      | none => .rejected "no_active_task")
  | none =>
    let (g, robot) := g.resolveAndClearByTaskId taskId
    (g, .ok ⟨taskId, robot, none, none, none, none⟩)

variable [Field α] [LinearOrder α] [IsStrictOrderedRing α] (F : FloatFormat α)
  (iso : IsoTimestamp α) (fresh : FreshnessThresholds α)

/-- A tool, past the generation check. -/
def runTool (g : PolicyGate α) (r : Reading α) : ToolCall α → PolicyGate α × ToolResult α
  | .dispatchTask robot pickup dropoff via action duration =>
    let (g, result) := g.validateAndRegisterDispatch F iso fresh r robot pickup dropoff action
    (g, .ofDispatch (fun taskId => ⟨taskId, robot, some action, dropoff, via, duration⟩) result)
  | .cancelTask taskId => cancelTask g taskId
  | .sendToCharging robot =>
    let (g, result) := g.validateAndRegisterCharging F iso fresh r robot
    (g, .ofDispatch
      (fun taskId => ⟨taskId, some robot, none, some "charging_station", none, none⟩) result)
  | .passive => (g, .read)

/-- A tool: nothing is looked at before the generation check has passed. -/
def callTool (g : PolicyGate α) (gen : Except PyErr GenCheckResult) (r : Reading α)
    (call : ToolCall α) : PolicyGate α × ToolResult α :=
  match gen with
  | .error e => (g, .error e)
  | .ok ⟨some reason, _⟩ => (g, .rejected reason.text)
  | .ok ⟨none, _⟩ => runTool F iso fresh g r call

omit [Field α] [LinearOrder α] [IsStrictOrderedRing α] in
/-- `plan_nav2_request`: the request an accepted call is forwarded as. -/
def planNav2Request (call : ToolCall α) (payload : Payload α) : Option (Nav2Request α) :=
  match call with
  | .dispatchTask .. => do
    let robot ← payload.robot
    if payload.action = some "wait" then
      let duration ← payload.duration
      return .wait robot duration
    else
      let destination ← payload.dropoff
      return .navigate robot destination payload.via
  | .sendToCharging _ => do
    let robot ← payload.robot
    let destination ← payload.dropoff
    return .navigate robot destination none
  | .cancelTask _ => do
    let robot ← payload.robot
    return .stop robot
  | .passive => none

end Tools

end MiniatureWarehouse
