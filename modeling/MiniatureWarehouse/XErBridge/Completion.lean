import MiniatureWarehouse.Framework.Runs
import MiniatureWarehouse.Planning.TaskGraph

/-!
# The completion loop of the X-ER bridge

The commander node hands out tasks of a plan and advances the plan when a robot reports the end
of its goal.  Three things take turns: the callback of the result topic, which only queues a
parsed result; one turn of the draining loop, which applies one queued result; and a planning
cycle, whose committed dispatches are folded into the map of robots in flight.  The callback runs
on another thread, so every interleaving of the three is a run of the machine.

A goal result carries the identifier of the navigation stack, which never reaches the planner;
the bridge looks up its task by the robot alone, under the plan id of the latest cycle.
-/

namespace MiniatureWarehouse

namespace XErBridge

/-! ## One goal result -/

/-- `GoalResult`: a parsed completion. -/
structure GoalResult where
  robot : String
  taskId : String
  result : String
  deriving DecidableEq, Repr

/-- `parse_goal_result`: anything malformed is dropped; a text nested too deeply raises. -/
def parseGoalResult {α : Type*} (scan : JsonScan α) (data : String) :
    Except PyErr (Option GoalResult) :=
  match scan.loads data with
  | .error .valueError => .ok none
  | .error .recursionError => .error .recursionError
  | .ok payload =>
    match payload.get? "robot", payload.get? "result" with
    | some (.str robot), some (.str result) =>
      if robot = "" ∨ result = "" then .ok none
      else
        let taskId := match payload.get? "task_id" with
          | some (.str taskId) => taskId
          | _ => ""
        .ok (some ⟨robot, taskId, result⟩)
    | _, _ => .ok none

/-- Why a completion was applied or not, with the task and the status it found. -/
inductive OutcomeReason
  | nothingInFlight
  | notRunning (nodeId : String) (status : TaskStatus)
  | succeeded (nodeId : String)
  | failed (nodeId : String)
  | unknownResult (nodeId : String)
  deriving DecidableEq, Repr

/-- `GoalResultOutcome`, of which every field follows from the reason. -/
structure GoalResultOutcome where
  reason : OutcomeReason
  deriving DecidableEq, Repr

namespace GoalResultOutcome

/-- The call the completion made on the executor: the task it marked, and as what. -/
def marked (o : GoalResultOutcome) : Option (String × TaskStatus) :=
  match o.reason with
  | .succeeded nodeId => some (nodeId, .succeeded)
  | .failed nodeId => some (nodeId, .failed)
  | _ => none

end GoalResultOutcome

section Apply

variable {α : Type*}

/-- `apply_goal_result`: the completion of a robot is applied to the task the robot has in
flight, if that task is running under the plan. -/
def applyGoalResult (g : GoalResult) (planId : String) (inflight : Dict String String)
    (store : TaskGraphStore α) :
    Except PyErr (Dict String String × TaskGraphStore α × GoalResultOutcome) :=
  match inflight.get? g.robot with
  | none => .ok (inflight, store, ⟨.nothingInFlight⟩)
  | some nodeId =>
    match TaskGraphExecutor.loadState store planId with
    | .error e => .error e
    | .ok state =>
      let status := state.statusOf nodeId
      if status ≠ .running then
        .ok (inflight.erase g.robot, store, ⟨.notRunning nodeId status⟩)
      else if g.result = "succeeded" then
        (TaskGraphExecutor.markSucceeded store planId nodeId state).map fun r =>
          (inflight.erase g.robot, r.2, ⟨.succeeded nodeId⟩)
      else if g.result = "failed" then
        (TaskGraphExecutor.markFailed store planId nodeId state).map fun r =>
          (inflight.erase g.robot, r.2, ⟨.failed nodeId⟩)
      else .ok (inflight, store, ⟨.unknownResult nodeId⟩)

/-- The node is running under this plan. -/
def RunningUnder (store : TaskGraphStore α) (planId nodeId : String) : Prop :=
  (TaskGraphExecutor.loadState store planId).toOption.map (·.statusOf nodeId) = some .running

instance (store : TaskGraphStore α) (planId nodeId : String) :
    Decidable (RunningUnder store planId nodeId) :=
  inferInstanceAs (Decidable (_ = _))

/-- **Specification of `apply_goal_result`.**  A completion keeps the map of robots in flight or
drops the robot that reported.  It marks only the task its robot has in flight, only while that
task is running under the plan, and only for a result of the vocabulary. -/
lemma applyGoalResult_spec {g : GoalResult} {planId : String} {inflight : Dict String String}
    {store : TaskGraphStore α} {inflight' : Dict String String} {store' : TaskGraphStore α}
    {o : GoalResultOutcome}
    (h : applyGoalResult g planId inflight store = .ok (inflight', store', o)) :
    (inflight' = inflight ∨ inflight' = inflight.erase g.robot) ∧
      ∀ nodeId status, o.marked = some (nodeId, status) →
        inflight.get? g.robot = some nodeId ∧ RunningUnder store planId nodeId ∧
          (g.result = "succeeded" ∨ g.result = "failed") := by
  unfold applyGoalResult at h
  cases hnode : inflight.get? g.robot with
  | none =>
    simp only [hnode] at h
    cases h
    exact ⟨.inl rfl, fun _ _ hmark => by cases hmark⟩
  | some node =>
    cases hstate : TaskGraphExecutor.loadState store planId with
    | error e => simp only [hnode, hstate, reduceCtorEq] at h
    | ok state =>
      simp only [hnode, hstate] at h
      have hrunning : state.statusOf node = .running → RunningUnder store planId node := by
        intro hstatus
        rw [RunningUnder, hstate]
        exact congrArg some hstatus
      split_ifs at h with hstatus hsucceeded hfailed
      · cases h
        exact ⟨.inr rfl, fun _ _ hmark => by cases hmark⟩
      · obtain ⟨r, -, heq⟩ := exceptMap_eq_ok.mp h
        cases heq
        refine ⟨.inr rfl, ?_⟩
        intro nodeId status hmark
        cases hmark
        exact ⟨rfl, hrunning (not_not.mp hstatus), .inl hsucceeded⟩
      · obtain ⟨r, -, heq⟩ := exceptMap_eq_ok.mp h
        cases heq
        refine ⟨.inr rfl, ?_⟩
        intro nodeId status hmark
        cases hmark
        exact ⟨rfl, hrunning (not_not.mp hstatus), .inr hfailed⟩
      · cases h
        exact ⟨.inl rfl, fun _ _ hmark => by cases hmark⟩

end Apply

/-- `fold_inflight`: the committed pairs of a cycle enter the map, except for a robot that is in
flight already; the refused pairs are returned. -/
def foldInflight (inflight : Dict String String) :
    List (String × String) → Dict String String × List (String × String)
  | [] => (inflight, [])
  | (robot, nodeId) :: committed =>
    if inflight.contains robot then
      let (inflight, refused) := foldInflight inflight committed
      (inflight, (robot, nodeId) :: refused)
    else foldInflight (inflight.set robot nodeId) committed

/-- A robot that is in flight keeps its entry. -/
lemma get?_foldInflight_of_some {inflight : Dict String String} {robot nodeId : String}
    (h : inflight.get? robot = some nodeId) (committed : List (String × String)) :
    (foldInflight inflight committed).1.get? robot = some nodeId := by
  induction committed generalizing inflight with
  | nil => exact h
  | cons pair committed ih =>
    obtain ⟨robot', nodeId'⟩ := pair
    unfold foldInflight
    by_cases hin : inflight.contains robot' = true
    · rw [if_pos hin]
      exact ih h
    · rw [if_neg hin]
      have hne : robot ≠ robot' := by
        rintro rfl
        exact hin ((Dict.contains_iff _ _).mpr ⟨nodeId, h⟩)
      apply ih
      rw [Dict.get?_set_of_ne _ _ hne]
      exact h

/-! ## One planning cycle -/

section Cycle

variable {α : Type*}

/-- An item of the compiled command, with the task it was compiled from. -/
structure CompiledItem where
  bot : String
  destination : String
  taskId : String
  deriving DecidableEq, Repr

/-- `skipped_reason`. -/
inductive SkippedReason
  | adapterError
  | pluginRejected
  | emptyCommand
  deriving DecidableEq, Repr

/-- What a planning cycle meets outside of the task graph: the model proposes nothing; something
refuses the proposal by raising; the proposal is turned down before the store is touched; or a
draft is planned, with what the compiler makes of a ready set and how the tool layer answers each
item (accepted, not accepted, or raising). -/
inductive Cycle (α : Type*)
  | adapterError
  | raised (e : PyErr)
  | turnedDown (planId : String) (reason : SkippedReason)
  | planned (draft : RoboticsPlanDraft α) (compile : List ReadyTask → List CompiledItem)
      (execute : CompiledItem → Except PyErr Bool)

/-- `XErCycleOutcome`, as far as the bridge reads it. -/
structure XErCycleOutcome where
  skippedReason : Option SkippedReason
  committed : List (String × String) := []
  planId : Option String := none
  deriving DecidableEq

/-- The dispatch loop of a cycle: every accepted item starts its task, if the items could be
aligned with their tasks at all. -/
def dispatchLoop (planId : String) (aligned : Bool) (execute : CompiledItem → Except PyErr Bool) :
    List CompiledItem → RuntimeState → TaskGraphStore α →
      TaskGraphStore α × Except PyErr (List (String × String))
  | [], _, store => (store, .ok [])
  | item :: items, state, store =>
    match execute item with
    | .error e => (store, .error e)
    | .ok false => dispatchLoop planId aligned execute items state store
    | .ok true =>
      if aligned then
        match TaskGraphExecutor.markRunning store planId item.taskId state with
        | .error e => (store, .error e)
        | .ok (state, store) =>
          let (store, committed) := dispatchLoop planId aligned execute items state store
          (store, committed.map ((item.bot, item.taskId) :: ·))
      else dispatchLoop planId aligned execute items state store

/-- `run_x_er_cycle`, the effects on the store included.  The ready set is computed twice, once
by the compile and once for the commit; the second compile must reproduce the command. -/
def runXErCycle (store : TaskGraphStore α) :
    Cycle α → TaskGraphStore α × Except PyErr XErCycleOutcome
  | .adapterError => (store, .ok { skippedReason := some .adapterError })
  | .raised e => (store, .error e)
  | .turnedDown planId reason =>
    (store, .ok { skippedReason := some reason, planId := some planId })
  | .planned draft compile execute =>
    match TaskGraphExecutor.loadState store draft.planId with
    | .error e => (store, .error e)
    | .ok state =>
      let (ready, _, store) := TaskGraphExecutor.readyTasks store draft state
      let items := compile ready
      if items = [] then
        (store, .ok { skippedReason := some .emptyCommand, planId := some draft.planId })
      else
        match TaskGraphExecutor.loadState store draft.planId with
        | .error e => (store, .error e)
        | .ok state =>
          let (ready, state, store) := TaskGraphExecutor.readyTasks store draft state
          let audit := compile ready
          let command (items : List CompiledItem) := items.map fun i => (i.bot, i.destination)
          let aligned := decide (command audit = command items)
          let (store, committed) :=
            dispatchLoop draft.planId aligned execute (if aligned then audit else items) state store
          (store, committed.map fun committed =>
            { skippedReason := none, committed := committed, planId := some draft.planId })

/-- A cycle that dispatched knows its plan. -/
lemma planId_of_dispatched {store store' : TaskGraphStore α} {c : Cycle α}
    {outcome : XErCycleOutcome} (h : runXErCycle store c = (store', .ok outcome))
    (hskip : outcome.skippedReason = none) : ∃ planId, outcome.planId = some planId := by
  cases c with
  | adapterError =>
    cases h
    cases hskip
  | raised e => cases h
  | turnedDown planId reason =>
    cases h
    cases hskip
  | planned draft compile execute =>
    simp only [runXErCycle] at h
    split at h
    · cases h
    · split_ifs at h
      · cases h
        cases hskip
      · split at h
        · cases h
        · have hcommitted := (Prod.mk.inj h).2
          obtain ⟨committed, -, heq⟩ := exceptMap_eq_ok.mp hcommitted
          exact ⟨draft.planId, by rw [← heq]⟩

end Cycle

end XErBridge

end MiniatureWarehouse
