import MiniatureWarehouse.Composition.OfflineJoin
import MiniatureWarehouse.Framework.Loops
import MiniatureWarehouse.LlmBridge.OperatorFeedback
import MiniatureWarehouse.Orchestrator.ConversationMetrics

/-!
# The indicators of a run

The indicators of a run are counted from the rows of the audit log.  A row that cancels a task does
not count, and neither does the dispatch that was cancelled.  The times of completion come from
outside and are paired with the dispatches of the log.

What tells the tasks of the log apart is the id a dispatch was answered with, whatever value it is;
the ids that were cancelled are a set, and a value that cannot be a member of a set fails the
computation.  The summaries of the evaluation kit (the fairness of the loads, the statistics of the
completions) are parameters; the half of the report that only copies measurements of the motion is
left out.
-/

namespace MiniatureWarehouse

namespace Kpi

open OfflineJoin (field)
open OperatorFeedback (Hashed hashed?)

/-! ## The audit log -/

/-- `AuditEntry`, by the fields the indicators read. -/
structure AuditEntry (α : Type) where
  timestamp : Option (PyFloat α)
  tool : Option String
  result : Option String
  detail : PyVal α
  robot : Option String

/-- `DISPATCH_TOOLS`. -/
def dispatchTools : List String := ["dispatch_task", "send_to_charging"]

/-- `COMMAND_TOOLS`. -/
def commandTools : List String :=
  ["dispatch_task", "cancel_task", "send_to_charging", "escalation_response", "start_negotiation"]

/-- `CANCEL_TOOL`. -/
def cancelTool : String := "cancel_task"

/-- `INTERVENTION_TOOL`. -/
def interventionTool : String := "escalation_response"

namespace AuditEntry

variable {α : Type}

/-- `AuditEntry.task_id`, `None` when there is none. -/
def taskId (entry : AuditEntry α) : PyVal α :=
  match entry.detail with
  | .dict detail => field detail "task_id"
  | _ => .null

/-- `AuditEntry.reason`, `None` when there is none. -/
def reason (entry : AuditEntry α) : PyVal α :=
  match entry.detail with
  | .dict detail => field detail "reason"
  | _ => .null

/-- `entry.result == RESULT_EXECUTED`. -/
def isExecuted (entry : AuditEntry α) : Bool := entry.result = some "executed"

/-- `entry.tool in DISPATCH_TOOLS`. -/
def isDispatch (entry : AuditEntry α) : Bool := entry.tool.any (· ∈ dispatchTools)

variable [Field α] [LinearOrder α]

/-- The condition under which a row cancels a task. -/
def isExecutedCancel (entry : AuditEntry α) : Bool :=
  entry.tool = some cancelTool && entry.isExecuted && WebBridge.truthy entry.taskId

end AuditEntry

section Cancelled

variable {α : Type} [Field α] [LinearOrder α]

/-- A value as the member of a set, which a container cannot be. -/
def hash (v : PyVal α) : Except PyErr (Hashed α) :=
  match hashed? v with
  | some k => .ok k
  | none => .error .typeError

/-- One turn of the loop of `cancelled_task_ids`. -/
def addCancelled (out : Finset (Hashed α)) (entry : AuditEntry α) :
    Except PyErr (Finset (Hashed α)) :=
  if entry.isExecutedCancel then (hash entry.taskId).map fun id => insert id out else .ok out

/-- `cancelled_task_ids`. -/
def cancelledTaskIds (entries : List (AuditEntry α)) : Except PyErr (Finset (Hashed α)) :=
  entries.foldlM addCancelled ∅

/-- `cancelled_task_ids(entries) if exclude_cancelled else set()`. -/
def cancelledIf (excludeCancelled : Bool) (entries : List (AuditEntry α)) :
    Except PyErr (Finset (Hashed α)) :=
  if excludeCancelled then cancelledTaskIds entries else .ok ∅

/-- `value is not None`. -/
def isSome (v : PyVal α) : Bool :=
  match v with
  | .null => false
  | _ => true

/-- `_is_cancelled`. -/
def isCancelled (cancelled : Finset (Hashed α)) (entry : AuditEntry α) : Except PyErr Bool :=
  if entry.tool = some cancelTool then .ok true
  else if entry.isDispatch && isSome entry.taskId then
    (hash entry.taskId).map fun id => decide (id ∈ cancelled)
  else .ok false

end Cancelled

/-! ## The tallies -/

/-- `ResultTally`. -/
structure ResultTally where
  executed : ℕ
  rejected : ℕ
  error : ℕ
  other : ℕ
  deriving DecidableEq, Repr

namespace ResultTally

/-- A tally of nothing. -/
def zero : ResultTally := ⟨0, 0, 0, 0⟩

/-- `ResultTally.total`. -/
def total (t : ResultTally) : ℕ := t.executed + t.rejected + t.error + t.other

/-- `ResultTally.add`. -/
def add (t : ResultTally) (result : Option String) : ResultTally :=
  if result = some "executed" then { t with executed := t.executed + 1 }
  else if result = some "rejected" then { t with rejected := t.rejected + 1 }
  else if result = some "error" then { t with error := t.error + 1 }
  else { t with other := t.other + 1 }

lemma total_add (t : ResultTally) (result : Option String) :
    (t.add result).total = t.total + 1 := by
  unfold add total
  split_ifs <;> dsimp only <;> omega

end ResultTally

/-- `_tally_for(table, key).add(result)`. -/
def tallyFor (table : Dict String ResultTally) (key : String) (result : Option String) :
    Dict String ResultTally :=
  table.set key ((table.getD key .zero).add result)

/-- `text or default`, of a text that may be missing. -/
def textOr (text : Option String) (default : String) : String :=
  match text with
  | some s => if s = "" then default else s
  | none => default

/-- The accumulators of `compute_kpis`. -/
structure Counts (α : Type) where
  overall : ResultTally
  byTool : Dict String ResultTally
  byRobot : Dict String ResultTally
  rejectionReasons : Dict (Hashed α) ℕ
  timestamps : List (PyFloat α)
  included : ℕ
  excluded : ℕ
  commandDecided : ℕ
  commandExecuted : ℕ
  interventions : ℕ

section Count

variable {α : Type} [Field α] [LinearOrder α]

/-- The accumulators before the first row. -/
def Counts.start : Counts α := ⟨.zero, .empty, .empty, .empty, [], 0, 0, 0, 0, 0⟩

/-- `rejection_reasons[entry.reason or "<unspecified>"] += 1`, of a rejected row. -/
def countReason (reasons : Dict (Hashed α) ℕ) (entry : AuditEntry α) :
    Except PyErr (Dict (Hashed α) ℕ) :=
  if entry.result = some "rejected" then
    let reason := if WebBridge.truthy entry.reason then entry.reason else .str "<unspecified>"
    (hash reason).map fun key => reasons.set key (reasons.getD key 0 + 1)
  else .ok reasons

/-- What `compute_kpis` does with a row it includes. -/
def includeRow (s : Counts α) (entry : AuditEntry α) : Except PyErr (Counts α) :=
  let command := entry.tool.any (· ∈ commandTools)
  (countReason s.rejectionReasons entry).map fun reasons =>
    { s with
      included := s.included + 1
      timestamps := s.timestamps ++ entry.timestamp.toList
      overall := s.overall.add entry.result
      byTool := tallyFor s.byTool (textOr entry.tool "<unknown>") entry.result
      byRobot :=
        if textOr entry.robot "" = "" then s.byRobot
        else tallyFor s.byRobot (textOr entry.robot "") entry.result
      rejectionReasons := reasons
      commandDecided := if command then s.commandDecided + 1 else s.commandDecided
      commandExecuted :=
        if command && entry.isExecuted then s.commandExecuted + 1 else s.commandExecuted
      interventions :=
        if entry.tool = some interventionTool && entry.isExecuted then s.interventions + 1
        else s.interventions }

/-- One turn of the loop of `compute_kpis`. -/
def countRow (excludeCancelled : Bool) (cancelled : Finset (Hashed α)) (s : Counts α)
    (entry : AuditEntry α) : Except PyErr (Counts α) :=
  if excludeCancelled then
    (isCancelled cancelled entry).bind fun skip =>
      if skip then .ok { s with excluded := s.excluded + 1 } else includeRow s entry
  else includeRow s entry

end Count

/-! ## Completions -/

/-- `CompletionRecord`. -/
structure CompletionRecord (α : Type) where
  taskId : String
  robot : Option String
  dispatchTs : PyFloat α
  completionTs : PyFloat α

section Completions

variable {α : Type} [Field α] [LinearOrder α]

/-- One turn of the first loop of `pair_completion_times`; the start and the robot of a task are
written together. -/
def addStart (starts : Dict (Hashed α) (PyFloat α × Option String)) (entry : AuditEntry α) :
    Except PyErr (Dict (Hashed α) (PyFloat α × Option String)) :=
  if entry.isExecuted && entry.isDispatch && WebBridge.truthy entry.taskId then
    match entry.timestamp with
    | none => .ok starts
    | some stamp => (hash entry.taskId).map fun id =>
      match starts.get? id with
      | none => starts.set id (stamp, entry.robot)
      | some start => if stamp < start.1 then starts.set id (stamp, entry.robot) else starts
  else .ok starts

/-- The record of one completion, if it has one. -/
def pairRecord (cancelled : Finset (Hashed α))
    (starts : Dict (Hashed α) (PyFloat α × Option String))
    (completion : String × Option (PyFloat α)) : Option (CompletionRecord α) :=
  if .text completion.1 ∈ cancelled then none
  else match starts.get? (.text completion.1), completion.2 with
    | some start, some completionTs =>
      if completionTs < start.1 then none
      else some ⟨completion.1, start.2, start.1, completionTs⟩
    | _, _ => none

/-- `pair_completion_times`. -/
def pairCompletionTimes (excludeCancelled : Bool) (entries : List (AuditEntry α))
    (completions : Dict String (Option (PyFloat α))) :
    Except PyErr (List (CompletionRecord α)) := do
  let cancelled ← cancelledIf excludeCancelled entries
  let starts ← entries.foldlM addStart .empty
  .ok (completions.entries.filterMap (pairRecord cancelled starts))

end Completions

/-! ## The report -/

/-- `KpiReport`, the half that is counted from the audit log; a completion report is its records
with their summary. -/
structure KpiReport (α σ : Type) where
  totalEntries : ℕ
  includedEntries : ℕ
  excludedCancelled : ℕ
  windowStart : Option (PyFloat α)
  windowEnd : Option (PyFloat α)
  overall : ResultTally
  byTool : Dict String ResultTally
  byRobot : Dict String ResultTally
  rejectionReasons : Dict (Hashed α) ℕ
  acceptanceRate : Option (PyFloat α)
  errorRate : Option (PyFloat α)
  completion : Option (List (CompletionRecord α) × σ)
  interventionCount : ℕ
  commandDecisions : ℕ
  interventionRate : Option (PyFloat α)
  commandRejectionRate : Option (PyFloat α)
  fairnessJain : Option (PyFloat α)

section Report

variable {α σ : Type} [Field α] [LinearOrder α] [IsStrictOrderedRing α] (F : FloatFormat α)
  (completionStats : List (CompletionRecord α) → Except PyErr σ)
  (jainFairnessIndex : List ℕ → Option (PyFloat α))

omit [IsStrictOrderedRing α] in
/-- The completions of a report, if any were supplied. -/
def completionReport (excludeCancelled : Bool) (completions : Dict String (Option (PyFloat α)))
    (entries : List (AuditEntry α)) : Except PyErr (Option (List (CompletionRecord α) × σ)) :=
  if completions.entries.isEmpty then .ok none
  else (pairCompletionTimes excludeCancelled entries completions).bind fun records =>
    (completionStats records).map fun stats => some (records, stats)

/-- `compute_kpis`. -/
def computeKpis (excludeCancelled : Bool) (completions : Dict String (Option (PyFloat α)))
    (entries : List (AuditEntry α)) : Except PyErr (KpiReport α σ) := do
  let cancelled ← cancelledIf excludeCancelled entries
  let s ← entries.foldlM (countRow excludeCancelled cancelled) Counts.start
  let completion ← completionReport completionStats excludeCancelled completions entries
  let acceptance ← ConversationMetrics.ratio F s.commandExecuted s.commandDecided
  .ok
    { totalEntries := entries.length
      includedEntries := s.included
      excludedCancelled := s.excluded
      windowStart := match s.timestamps with
        | [] => none
        | t :: ts => some (ts.foldl PyFloat.pyMin t)
      windowEnd := match s.timestamps with
        | [] => none
        | t :: ts => some (ts.foldl (fun last t => if last < t then t else last) t)
      overall := s.overall
      byTool := s.byTool
      byRobot := s.byRobot
      rejectionReasons := s.rejectionReasons
      acceptanceRate := acceptance
      errorRate := ← ConversationMetrics.ratio F s.overall.error s.overall.total
      completion := completion
      interventionCount := s.interventions
      commandDecisions := s.commandDecided
      interventionRate := ← ConversationMetrics.ratio F s.interventions s.commandDecided
      commandRejectionRate := acceptance.map (F.sub (.fin 1))
      fairnessJain := jainFairnessIndex (s.byRobot.entries.map fun row => row.2.executed) }

end Report

end Kpi

end MiniatureWarehouse
