import MiniatureWarehouse.Framework.Values

/-!
# The plan draft and its task graph

The normalized plan of the L3 planning core, and the executor that turns its task graph into
ready tasks one cycle at a time.  The lifecycle of a plan's tasks is kept in a store under the
plan's id, as an opaque dictionary; the executor is a stateless driver over that store.

A store may hold anything (it can be durable and edited), so loading can fail: an unknown status
is surfaced instead of being read as a fresh task.
-/

namespace MiniatureWarehouse

/-! ## The draft -/

/-- `InputRefs`. -/
structure InputRefs where
  audio : Option String := none
  image : Option String := none
  state : Option String := none
  deriving DecidableEq, Repr

/-- `Detection`: one object the model reports in the overhead frame. -/
structure Detection (α : Type*) where
  id : String
  color : Option String := none
  pixel : List ℤ := []
  confidence : Option (PyFloat α) := none
  deriving DecidableEq

/-- `TaskNode`: one node of the task graph; `after` has the form `<task_id>.completed`. -/
structure TaskNode where
  id : String
  robot : String
  action : String
  target : Option String := none
  after : Option String := none
  deriving DecidableEq, Repr

/-- `RoboticsPlanDraft`.  Its schema version is pinned to the one supported value, so it is not
a field here. -/
structure RoboticsPlanDraft (α : Type*) where
  planId : String
  sourceModel : Option String := none
  inputRefs : InputRefs := {}
  transcript : Option String := none
  interpretedIntent : Option String := none
  detections : List (Detection α) := []
  taskGraph : List TaskNode := []
  operatorClarificationRequired : Bool := false
  deriving DecidableEq

/-- `after.split(".", 1)[0]`: the task a dependency refers to. -/
def afterRef (after : String) : String := String.ofList (after.toList.takeWhile (· != '.'))

/-! ## The lifecycle -/

/-- `TaskStatus`. -/
inductive TaskStatus
  | pending
  | ready
  | running
  | succeeded
  | failed
  | cancelled
  deriving DecidableEq, Repr

namespace TaskStatus

/-- The persisted spelling. -/
def value : TaskStatus → String
  | pending => "pending"
  | ready => "ready"
  | running => "running"
  | succeeded => "succeeded"
  | failed => "failed"
  | cancelled => "cancelled"

/-- `TaskStatus(value)`, which fails on any other spelling. -/
def ofValue? : String → Option TaskStatus
  | "pending" => some pending
  | "ready" => some ready
  | "running" => some running
  | "succeeded" => some succeeded
  | "failed" => some failed
  | "cancelled" => some cancelled
  | _ => none

@[simp] lemma ofValue?_value (s : TaskStatus) : ofValue? s.value = some s := by
  cases s <;> rfl

/-- `TERMINAL_STATUSES`. -/
def isTerminal : TaskStatus → Bool
  | succeeded | failed | cancelled => true
  | _ => false

/-- `_NON_EMITTABLE`: in flight or done. -/
def nonEmittable : TaskStatus → Bool
  | running => true
  | s => s.isTerminal

end TaskStatus

/-- `TaskGraphRuntimeState`: the status of every task seen so far. -/
abbrev RuntimeState := Dict String TaskStatus

/-- `status_of`: a task never seen is pending. -/
def RuntimeState.statusOf (r : RuntimeState) (taskId : String) : TaskStatus :=
  r.getD taskId .pending

/-- `InMemoryTaskGraphStore`: an opaque dictionary for each plan id. -/
abbrev TaskGraphStore (α : Type*) := Dict String (Dict String (PyVal α))

namespace RuntimeState

variable {α : Type*}

/-- `to_store_dict`. -/
def toStoreDict (r : RuntimeState) : Dict String (PyVal α) :=
  Dict.empty.set "statuses" (.dict (r.entries.map fun e => (e.1, .str e.2.value)))

/-- `TaskStatus(value)` of a persisted value. -/
def parseStatus : PyVal α → Except PyErr TaskStatus
  | .str s => match TaskStatus.ofValue? s with
    | some status => .ok status
    | none => .error .valueError
  | _ => .error .valueError

/-- `from_store_dict`: an absent or shapeless dictionary is a fresh state, an unknown status
raises. -/
def fromStoreDict (data : Option (Dict String (PyVal α))) : Except PyErr RuntimeState :=
  match data.bind fun d => d.get? "statuses" with
  | some (.dict raw) =>
    raw.foldlM (fun (r : RuntimeState) e => (parseStatus e.2).map fun status => r.set e.1 status)
      Dict.empty
  | _ => .ok .empty

end RuntimeState

/-! ## The executor -/

/-- `ReadyTask`: a task cleared for this cycle. -/
structure ReadyTask where
  taskId : String
  action : String
  robot : String
  target : Option String
  after : Option String
  deriving DecidableEq, Repr

/-- `ReadyTask.from_node`. -/
def ReadyTask.fromNode (node : TaskNode) : ReadyTask :=
  ⟨node.id, node.action, node.robot, node.target, node.after⟩

namespace TaskGraphExecutor

/-- `_dependencies_met`: the predecessor, if there is one, has succeeded. -/
def dependenciesMet (node : TaskNode) (runtime : RuntimeState) : Bool :=
  match node.after with
  | none => true
  | some after => runtime.statusOf (afterRef after) == .succeeded

/-- The loop of `ready_tasks` over the nodes: the tasks emitted and the statuses after it.  A
task id is emitted at most once in a call. -/
def readyLoop : List TaskNode → List String → RuntimeState → List ReadyTask × RuntimeState
  | [], _, runtime => ([], runtime)
  | node :: nodes, emitted, runtime =>
    let status := runtime.statusOf node.id
    if status.nonEmittable then readyLoop nodes emitted runtime
    else if node.id ∈ emitted then readyLoop nodes emitted runtime
    else if dependenciesMet node runtime then
      let (ready, after) := readyLoop nodes (node.id :: emitted) (runtime.set node.id .ready)
      (.fromNode node :: ready, after)
    else
      readyLoop nodes emitted
        (if status = .ready then runtime else runtime.set node.id .pending)

variable {α : Type*}

/-- `_persist`. -/
def persist (store : TaskGraphStore α) (planId : String) (runtime : RuntimeState) :
    TaskGraphStore α :=
  store.set planId runtime.toStoreDict

/-- `load_state`. -/
def loadState (store : TaskGraphStore α) (planId : String) : Except PyErr RuntimeState :=
  RuntimeState.fromStoreDict (store.get? planId)

/-- `ready_tasks`: the ready set, the statuses after it, and the store they are persisted in. -/
def readyTasks (store : TaskGraphStore α) (plan : RoboticsPlanDraft α) (runtime : RuntimeState) :
    List ReadyTask × RuntimeState × TaskGraphStore α :=
  let (ready, runtime) := readyLoop plan.taskGraph [] runtime
  (ready, runtime, persist store plan.planId runtime)

/-- `mark_running`: only a ready task starts. -/
def markRunning (store : TaskGraphStore α) (planId taskId : String) (runtime : RuntimeState) :
    Except PyErr (RuntimeState × TaskGraphStore α) :=
  if runtime.statusOf taskId = .ready then
    let runtime := runtime.set taskId .running
    .ok (runtime, persist store planId runtime)
  else .error .valueError

/-- `_mark_terminal`: only a running task succeeds or fails. -/
def markTerminal (store : TaskGraphStore α) (planId taskId : String) (runtime : RuntimeState)
    (status : TaskStatus) : Except PyErr (RuntimeState × TaskGraphStore α) :=
  if runtime.statusOf taskId = .running then
    let runtime := runtime.set taskId status
    .ok (runtime, persist store planId runtime)
  else .error .valueError

/-- `mark_succeeded`. -/
def markSucceeded (store : TaskGraphStore α) (planId taskId : String) (runtime : RuntimeState) :
    Except PyErr (RuntimeState × TaskGraphStore α) :=
  markTerminal store planId taskId runtime .succeeded

/-- `mark_failed`. -/
def markFailed (store : TaskGraphStore α) (planId taskId : String) (runtime : RuntimeState) :
    Except PyErr (RuntimeState × TaskGraphStore α) :=
  markTerminal store planId taskId runtime .failed

/-- `mark_cancelled`: a task that is not done can be cancelled, whether it has started or not. -/
def markCancelled (store : TaskGraphStore α) (planId taskId : String) (runtime : RuntimeState) :
    Except PyErr (RuntimeState × TaskGraphStore α) :=
  if (runtime.statusOf taskId).isTerminal then .error .valueError
  else
    let runtime := runtime.set taskId .cancelled
    .ok (runtime, persist store planId runtime)

/-! ### The ready set -/

/-- A node is ready in a state: it is not in flight or done, and its predecessor has succeeded. -/
structure IsReady (runtime : RuntimeState) (node : TaskNode) : Prop where
  emittable : (runtime.statusOf node.id).nonEmittable = false
  released : dependenciesMet node runtime = true

lemma statusOf_set (runtime : RuntimeState) (id : String) (status : TaskStatus) (taskId : String) :
    RuntimeState.statusOf (runtime.set id status) taskId =
      if taskId = id then status else runtime.statusOf taskId := by
  unfold RuntimeState.statusOf Dict.getD
  rw [Dict.get?_set]
  split_ifs <;> rfl

/-- A status other than succeeded releases no dependent. -/
lemma dependenciesMet_of_set {runtime : RuntimeState} {id : String} {status : TaskStatus}
    (hstatus : status ≠ .succeeded) {node : TaskNode}
    (h : dependenciesMet node (runtime.set id status) = true) :
    dependenciesMet node runtime = true := by
  unfold dependenciesMet at h ⊢
  cases hafter : node.after with
  | none => rfl
  | some after =>
    rw [hafter] at h
    simp only [statusOf_set, beq_iff_eq] at h ⊢
    split_ifs at h with href
    · exact absurd h hstatus
    · exact h

/-- Marking a task that is not in flight as pending or ready makes no other node ready. -/
lemma IsReady.of_set {runtime : RuntimeState} {id : String} {status : TaskStatus}
    (hid : (runtime.statusOf id).nonEmittable = false) (hstatus : status ≠ .succeeded)
    {node : TaskNode} (h : IsReady (runtime.set id status) node) : IsReady runtime node where
  emittable := by
    have hset := h.emittable
    rw [statusOf_set] at hset
    split_ifs at hset with hnode
    · rw [hnode]
      exact hid
    · exact hset
  released := dependenciesMet_of_set hstatus h.released

/-- Every ready task is a node of the graph that is ready in the state the loop started from. -/
theorem mem_readyLoop {nodes : List TaskNode} {emitted : List String} {runtime : RuntimeState}
    {task : ReadyTask} (h : task ∈ (readyLoop nodes emitted runtime).1) :
    ∃ node ∈ nodes, task = .fromNode node ∧ IsReady runtime node := by
  induction nodes generalizing emitted runtime with
  | nil => cases h
  | cons node nodes ih =>
    have hsame : task ∈ (readyLoop nodes emitted runtime).1 →
        ∃ n ∈ node :: nodes, task = .fromNode n ∧ IsReady runtime n := by
      intro hmem
      obtain ⟨n, hn, htask, hready⟩ := ih hmem
      exact ⟨n, List.mem_cons_of_mem _ hn, htask, hready⟩
    have hset : ∀ {emitted} (status), (runtime.statusOf node.id).nonEmittable = false →
        status ≠ .succeeded → task ∈ (readyLoop nodes emitted (runtime.set node.id status)).1 →
        ∃ n ∈ node :: nodes, task = .fromNode n ∧ IsReady runtime n := by
      intro emitted status hid hstatus hmem
      obtain ⟨n, hn, htask, hready⟩ := ih hmem
      exact ⟨n, List.mem_cons_of_mem _ hn, htask, hready.of_set hid hstatus⟩
    simp only [readyLoop] at h
    split_ifs at h with hstatus hemitted hdeps hready
    · exact hsame h
    · exact hsame h
    · have hid : (runtime.statusOf node.id).nonEmittable = false := by simpa using hstatus
      rcases List.mem_cons.mp h with htask | hmem
      · exact ⟨node, List.mem_cons_self, htask, hid, hdeps⟩
      · exact hset .ready hid (by decide) hmem
    · exact hsame h
    · exact hset .pending (by simpa using hstatus) (by decide) h

end TaskGraphExecutor

end MiniatureWarehouse
