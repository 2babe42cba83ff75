import MiniatureWarehouse.Framework.Runs
import MiniatureWarehouse.Planning.TaskGraph
import Mathlib.Algebra.Order.Field.Rat

/-!
# The lifecycle of a plan's tasks

The state of a running plan lives twice: in the handle its caller holds, and in the store, as a
dictionary of texts.  This file runs the executor on one handle of one plan, with calls in any
order and calls that raise among them.

A call can move a task only along the edges of `Transition`.  Everything else follows from that:
what is done stays done, a task starts at most once, and a task that has started was released by
its dependency.  The two copies of the state never differ (`Synced`), because every call that
changes the handle persists it, and what was persisted reads back as the same handle.
-/

namespace MiniatureWarehouse

/-! ## The codec of the store -/

namespace RuntimeState

variable {α : Type*}

/-- **Round trip.**  What was persisted is read back as it was. -/
theorem fromStoreDict_toStoreDict (r : RuntimeState) :
    fromStoreDict (some (r.toStoreDict : Dict String (PyVal α))) = .ok r := by
  have hfold : ∀ (es : List (String × TaskStatus)) (d : RuntimeState),
      (es.map fun e => (e.1, (.str e.2.value : PyVal α))).foldlM
        (fun (r : RuntimeState) e => (parseStatus e.2).map fun status => r.set e.1 status) d =
      .ok (es.foldl (fun d e => d.set e.1 e.2) d) := by
    intro es
    induction es with
    | nil => exact fun _ => rfl
    | cons e es ih =>
      intro d
      have hparse : parseStatus (.str e.2.value : PyVal α) = .ok e.2 := by
        simp [parseStatus]
      rw [List.map_cons, List.foldlM_cons, hparse]
      exact ih _
  have hget : (r.toStoreDict : Dict String (PyVal α)).get? "statuses" =
      some (.dict (r.entries.map fun e => (e.1, .str e.2.value))) := Dict.get?_set_self _ _ _
  unfold fromStoreDict
  rw [Option.bind_some, hget]
  dsimp only
  rw [hfold, Dict.foldl_set_entries]

end RuntimeState

namespace TaskGraphExecutor

/-! ## The calls on a handle -/

section Calls

variable {α : Type*}

/-- A call on the live handle of a plan. -/
inductive LifecycleCall
  | loadState
  | readyTasks
  | markRunning (taskId : String)
  | markSucceeded (taskId : String)
  | markFailed (taskId : String)
  | markCancelled (taskId : String)
  deriving DecidableEq, Repr

/-- The two copies of the state: the handle, and the store it is persisted in. -/
structure Live (α : Type*) where
  handle : RuntimeState
  store : TaskGraphStore α

/-- The handle a caller starts with, on a store that has no record of the plan. -/
def Live.start (store : TaskGraphStore α) : Live α := ⟨.empty, store⟩

/-- A transition that raises leaves the handle and the store alone. -/
def Live.commit (s : Live α) (result : Except PyErr (RuntimeState × TaskGraphStore α)) :
    Live α × Except PyErr (List ReadyTask) :=
  match result with
  | .error e => (s, .error e)
  | .ok (handle, store) => (⟨handle, store⟩, .ok [])

/-- The executor on one handle of a plan.  A call raises or returns; only `ready_tasks` returns
tasks. -/
def lifecycle (plan : RoboticsPlanDraft α) :
    Machine (Live α) LifecycleCall (Except PyErr (List ReadyTask)) where
  step s
    | .loadState =>
      match loadState s.store plan.planId with
      | .error e => (s, .error e)
      | .ok handle => ({ s with handle := handle }, .ok [])
    | .readyTasks =>
      let (ready, handle, store) := readyTasks s.store plan s.handle
      (⟨handle, store⟩, .ok ready)
    | .markRunning taskId => s.commit (markRunning s.store plan.planId taskId s.handle)
    | .markSucceeded taskId => s.commit (markSucceeded s.store plan.planId taskId s.handle)
    | .markFailed taskId => s.commit (markFailed s.store plan.planId taskId s.handle)
    | .markCancelled taskId => s.commit (markCancelled s.store plan.planId taskId s.handle)

end Calls

/-! ## What a call does to one task -/

/-- The moves of a task under a call, in the state before it. -/
inductive Transition (nodes : List TaskNode) (before : RuntimeState) (taskId : String) :
    LifecycleCall → TaskStatus → TaskStatus → Prop
  | stays (call : LifecycleCall) (status : TaskStatus) :
      Transition nodes before taskId call status status
  | readies (node : TaskNode) : node ∈ nodes → node.id = taskId →
      dependenciesMet node before = true →
      Transition nodes before taskId .readyTasks .pending .ready
  | runs : Transition nodes before taskId (.markRunning taskId) .ready .running
  | succeeds : Transition nodes before taskId (.markSucceeded taskId) .running .succeeded
  | fails : Transition nodes before taskId (.markFailed taskId) .running .failed
  | cancels (status : TaskStatus) : status.isTerminal = false →
      Transition nodes before taskId (.markCancelled taskId) status .cancelled

/-- A task that is neither in flight nor done waits to be started. -/
lemma pending_or_ready {status : TaskStatus} (h : status.nonEmittable = false) :
    status = .pending ∨ status = .ready := by
  cases status with
  | pending => exact .inl rfl
  | ready => exact .inr rfl
  | running | succeeded | failed | cancelled => cases h

/-- The ready loop leaves the status of a task, or makes a pending task ready that has a node
whose dependency is met. -/
lemma statusOf_readyLoop (nodes : List TaskNode) (emitted : List String) (runtime : RuntimeState)
    (taskId : String) :
    Transition nodes runtime taskId .readyTasks (runtime.statusOf taskId)
      ((readyLoop nodes emitted runtime).2.statusOf taskId) := by
  induction nodes generalizing emitted runtime with
  | nil => exact .stays _ _
  | cons node nodes ih =>
    have hweaken : ∀ {before after}, Transition nodes runtime taskId .readyTasks before after →
        Transition (node :: nodes) runtime taskId .readyTasks before after := by
      intro before after h
      cases h with
      | stays => exact .stays _ _
      | readies n hn hid hmet => exact .readies n (List.mem_cons_of_mem _ hn) hid hmet
    have hset : ∀ (emitted : List String) (status before : TaskStatus), status ≠ .succeeded →
        RuntimeState.statusOf (runtime.set node.id status) taskId = before →
        Transition nodes runtime taskId .readyTasks before
          ((readyLoop nodes emitted (runtime.set node.id status)).2.statusOf taskId) := by
      intro emitted status before hstatus hbefore
      have h := ih emitted (runtime.set node.id status)
      rw [hbefore] at h
      generalize (readyLoop nodes emitted (runtime.set node.id status)).2.statusOf taskId = after
        at h
      cases h with
      | stays => exact .stays _ _
      | readies n hn hid hmet => exact .readies n hn hid (dependenciesMet_of_set hstatus hmet)
    simp only [readyLoop]
    split_ifs with hstatus hemitted hdeps hready
    · exact hweaken (ih emitted runtime)
    · exact hweaken (ih emitted runtime)
    · by_cases htask : taskId = node.id
      · -- the task of this node: ready from now on
        have h := hset (node.id :: emitted) .ready .ready (by decide)
          (by rw [statusOf_set, if_pos htask])
        generalize (readyLoop nodes (node.id :: emitted) (runtime.set node.id .ready)).2.statusOf
          taskId = after at h ⊢
        rw [htask] at h ⊢
        cases h with
        | stays =>
          rcases pending_or_ready (by simpa using hstatus) with hpending | hready
          · rw [hpending]
            exact .readies node List.mem_cons_self rfl hdeps
          · rw [hready]
            exact .stays _ _
      · refine hweaken (hset (node.id :: emitted) _ _ (by decide) ?_)
        rw [statusOf_set, if_neg htask]
    · exact hweaken (ih emitted runtime)
    · refine hweaken (hset emitted _ _ (by decide) ?_)
      rw [statusOf_set]
      split_ifs with htask
      · rw [htask]
        exact ((pending_or_ready (by simpa using hstatus)).resolve_right hready).symm
      · rfl

/-! ### Offering the same tasks again -/

/-- Two states in which the same tasks are in flight or done, and the same have succeeded. -/
def Similar (r r' : RuntimeState) : Prop :=
  ∀ id, (r.statusOf id).nonEmittable = (r'.statusOf id).nonEmittable ∧
    (r.statusOf id = .succeeded ↔ r'.statusOf id = .succeeded)

lemma Similar.set {r r' : RuntimeState} (h : Similar r r') (id : String) (status : TaskStatus) :
    Similar (r.set id status) (r'.set id status) := by
  intro other
  rw [statusOf_set, statusOf_set]
  split_ifs
  · exact ⟨rfl, Iff.rfl⟩
  · exact h other

lemma Similar.symm {r r' : RuntimeState} (h : Similar r r') : Similar r' r :=
  fun id => ⟨(h id).1.symm, (h id).2.symm⟩

/-- Marking a task pending that waits to be started changes nothing of this. -/
lemma Similar.set_pending {r r' : RuntimeState} (h : Similar r r') {id : String}
    (hid : (r.statusOf id).nonEmittable = false) : Similar (r.set id .pending) r' := by
  intro other
  rw [statusOf_set]
  split_ifs with heq
  · subst heq
    refine ⟨hid.symm.trans (h other).1, ?_⟩
    have hopen : r.statusOf other ≠ .succeeded := by
      intro hdone
      rw [hdone] at hid
      cases hid
    exact ⟨fun hpending => hpending.elim,
      fun hdone => absurd ((h other).2.mpr hdone) hopen⟩
  · exact h other

lemma Similar.dependenciesMet {r r' : RuntimeState} (h : Similar r r') (node : TaskNode) :
    dependenciesMet node r = dependenciesMet node r' := by
  unfold TaskGraphExecutor.dependenciesMet
  cases node.after with
  | none => rfl
  | some after =>
    rw [Bool.eq_iff_iff, beq_iff_eq, beq_iff_eq]
    exact (h (afterRef after)).2

/-- The loop offers the same tasks in similar states. -/
lemma readyLoop_congr {r r' : RuntimeState} (h : Similar r r') (nodes : List TaskNode)
    (emitted : List String) : (readyLoop nodes emitted r).1 = (readyLoop nodes emitted r').1 := by
  induction nodes generalizing emitted r r' with
  | nil => rfl
  | cons node nodes ih =>
    have hstatus := (h node.id).1
    have hdeps := h.dependenciesMet node
    simp only [readyLoop, ← hstatus, ← hdeps]
    split_ifs with hfixed hemitted hmet
    · exact ih h emitted
    · exact ih h emitted
    · exact congrArg (ReadyTask.fromNode node :: ·) (ih (h.set node.id .ready) (node.id :: emitted))
    all_goals
      have hopen : (r.statusOf node.id).nonEmittable = false := by simpa using hfixed
    · exact ih h emitted
    · exact ih (h.symm.set_pending (hstatus.symm.trans hopen)).symm emitted
    · exact ih (h.set_pending hopen) emitted
    · exact ih (h.set node.id .pending) emitted

/-- A round of the loop leaves the state similar. -/
lemma similar_readyLoop (nodes : List TaskNode) (emitted : List String) (runtime : RuntimeState) :
    Similar runtime (readyLoop nodes emitted runtime).2 := by
  intro id
  have hmove := statusOf_readyLoop nodes emitted runtime id
  generalize runtime.statusOf id = before at hmove
  generalize (readyLoop nodes emitted runtime).2.statusOf id = after at hmove
  cases hmove with
  | stays => exact ⟨rfl, Iff.rfl⟩
  | readies => exact ⟨rfl, by simp⟩

/-- **A task that is not started is offered again.** -/
theorem readyLoop_twice (nodes : List TaskNode) (runtime : RuntimeState) :
    (readyLoop nodes [] (readyLoop nodes [] runtime).2).1 = (readyLoop nodes [] runtime).1 :=
  (readyLoop_congr (similar_readyLoop nodes [] runtime) nodes []).symm

/-- No task is offered twice in one call. -/
lemma nodup_readyLoop (nodes : List TaskNode) (emitted : List String) (runtime : RuntimeState) :
    ((readyLoop nodes emitted runtime).1.map ReadyTask.taskId).Nodup ∧
      ∀ task ∈ (readyLoop nodes emitted runtime).1, task.taskId ∉ emitted := by
  induction nodes generalizing emitted runtime with
  | nil => exact ⟨List.nodup_nil, fun _ h => by cases h⟩
  | cons node nodes ih =>
    simp only [readyLoop]
    split_ifs with hfixed hemitted hmet
    · exact ih emitted runtime
    · exact ih emitted runtime
    · obtain ⟨hnodup, hfresh⟩ := ih (node.id :: emitted) (runtime.set node.id .ready)
      refine ⟨List.nodup_cons.mpr ⟨?_, hnodup⟩, ?_⟩
      · intro hmem
        obtain ⟨task, htask, hid⟩ := List.mem_map.mp hmem
        exact hfresh task htask (List.mem_cons.mpr (.inl hid))
      · intro task htask
        rcases List.mem_cons.mp htask with rfl | hrest
        · exact hemitted
        · exact fun hmem => hfresh task hrest (List.mem_cons_of_mem _ hmem)
    · exact ih emitted runtime
    · exact ih emitted (runtime.set node.id .pending)

/-- A task that is offered is marked ready. -/
lemma statusOf_of_mem_readyLoop {nodes : List TaskNode} {emitted : List String}
    {runtime : RuntimeState} {task : ReadyTask} (h : task ∈ (readyLoop nodes emitted runtime).1) :
    (readyLoop nodes emitted runtime).2.statusOf task.taskId = .ready := by
  induction nodes generalizing emitted runtime with
  | nil => cases h
  | cons node nodes ih =>
    simp only [readyLoop] at h ⊢
    split_ifs at h ⊢ with hfixed hemitted hmet
    · exact ih h
    · exact ih h
    · rcases List.mem_cons.mp h with rfl | hrest
      · have hmove := statusOf_readyLoop nodes (node.id :: emitted) (runtime.set node.id .ready)
          node.id
        rw [statusOf_set, if_pos rfl] at hmove
        show RuntimeState.statusOf (readyLoop nodes (node.id :: emitted)
          (runtime.set node.id .ready)).2 node.id = .ready
        generalize RuntimeState.statusOf (readyLoop nodes (node.id :: emitted)
          (runtime.set node.id .ready)).2 node.id = after at hmove
        cases hmove
        rfl
      · exact ih hrest
    · exact ih h
    · exact ih h

/-! ## The two copies of the state -/

section Synced

variable {α : Type*} {plan : RoboticsPlanDraft α}

/-- The record of the plan is the handle; a plan that was never persisted has none, and the fresh
handle. -/
def Synced (plan : RoboticsPlanDraft α) (s : Live α) : Prop :=
  s.store.get? plan.planId = some s.handle.toStoreDict ∨
    s.store.get? plan.planId = none ∧ s.handle = .empty

lemma get?_persist (store : TaskGraphStore α) (planId : String) (handle : RuntimeState) :
    (persist store planId handle).get? planId = some handle.toStoreDict :=
  Dict.get?_set_self _ _ _

lemma synced_persist (store : TaskGraphStore α) (handle : RuntimeState) :
    Synced plan ⟨handle, persist store plan.planId handle⟩ := .inl (get?_persist _ _ _)

lemma synced_start {store : TaskGraphStore α} (h : store.get? plan.planId = none) :
    Synced plan (.start store) := .inr ⟨h, rfl⟩

/-- Loading reads the handle; a plan without a record is read as the fresh state. -/
lemma Synced.loadState {s : Live α} (h : Synced plan s) :
    loadState s.store plan.planId = .ok s.handle := by
  unfold TaskGraphExecutor.loadState
  rcases h with hrecord | ⟨hnone, hfresh⟩
  · rw [hrecord]
    exact RuntimeState.fromStoreDict_toStoreDict s.handle
  · rw [hnone, hfresh]
    rfl

/-- What a call does to the two copies: it raises and leaves both alone, it reads the handle from
the store, or it writes the new handle to the store. -/
lemma step_cases (plan : RoboticsPlanDraft α) (s : Live α) (call : LifecycleCall) :
    (∃ e, (lifecycle plan).step s call = (s, .error e)) ∨
    (call = .loadState ∧ ∃ handle, loadState s.store plan.planId = .ok handle ∧
      (lifecycle plan).step s call = (⟨handle, s.store⟩, .ok [])) ∨
    (call ≠ .loadState ∧ ∃ handle tasks, (lifecycle plan).step s call =
      (⟨handle, persist s.store plan.planId handle⟩, .ok tasks)) := by
  cases call with
  | loadState =>
    simp only [lifecycle]
    cases hload : loadState s.store plan.planId with
    | error e => exact .inl ⟨e, rfl⟩
    | ok handle => exact .inr (.inl ⟨trivial, handle, rfl, rfl⟩)
  | readyTasks => exact .inr (.inr ⟨by simp, _, _, rfl⟩)
  | markRunning taskId =>
    simp only [lifecycle, markRunning]
    split_ifs
    · exact .inr (.inr ⟨by simp, _, _, rfl⟩)
    · exact .inl ⟨_, rfl⟩
  | markSucceeded taskId =>
    simp only [lifecycle, markSucceeded, markTerminal]
    split_ifs
    · exact .inr (.inr ⟨by simp, _, _, rfl⟩)
    · exact .inl ⟨_, rfl⟩
  | markFailed taskId =>
    simp only [lifecycle, markFailed, markTerminal]
    split_ifs
    · exact .inr (.inr ⟨by simp, _, _, rfl⟩)
    · exact .inl ⟨_, rfl⟩
  | markCancelled taskId =>
    simp only [lifecycle, markCancelled]
    split_ifs
    · exact .inl ⟨_, rfl⟩
    · exact .inr (.inr ⟨by simp, _, _, rfl⟩)

/-- **Step, the copies.**  Every call keeps the copies in step. -/
lemma Synced.step {s : Live α} (h : Synced plan s) (call : LifecycleCall) :
    Synced plan ((lifecycle plan).step s call).1 := by
  rcases step_cases plan s call with
    ⟨e, heq⟩ | ⟨-, handle, hload, heq⟩ | ⟨-, handle, tasks, heq⟩
  · rw [heq]
    exact h
  · rw [heq]
    obtain rfl : s.handle = handle := Except.ok.inj (h.loadState.symm.trans hload)
    exact h
  · rw [heq]
    exact synced_persist s.store handle

/-- A call that sets the status of one task moves that task, and no other. -/
lemma Transition.set {nodes : List TaskNode} {runtime : RuntimeState} {id : String}
    {call : LifecycleCall} {status : TaskStatus}
    (hmove : Transition nodes runtime id call (runtime.statusOf id) status) (taskId : String) :
    Transition nodes runtime taskId call (runtime.statusOf taskId)
      (RuntimeState.statusOf (runtime.set id status) taskId) := by
  by_cases htask : taskId = id
  · subst htask
    rw [statusOf_set, if_pos rfl]
    exact hmove
  · rw [statusOf_set, if_neg htask]
    exact .stays _ _

/-- **Step, one task.**  A call moves a task along an edge of the lifecycle. -/
lemma Synced.transition {s : Live α} (h : Synced plan s) (call : LifecycleCall) (taskId : String) :
    Transition plan.taskGraph s.handle taskId call (s.handle.statusOf taskId)
      (((lifecycle plan).step s call).1.handle.statusOf taskId) := by
  cases call with
  | loadState =>
    simp only [lifecycle, h.loadState]
    exact .stays _ _
  | readyTasks => exact statusOf_readyLoop plan.taskGraph [] s.handle taskId
  | markRunning id =>
    simp only [lifecycle, markRunning, Live.commit]
    split_ifs with hready
    · refine Transition.set ?_ taskId
      rw [hready]
      exact .runs
    · exact .stays _ _
  | markSucceeded id =>
    simp only [lifecycle, markSucceeded, markTerminal, Live.commit]
    split_ifs with hrunning
    · refine Transition.set ?_ taskId
      rw [hrunning]
      exact .succeeds
    · exact .stays _ _
  | markFailed id =>
    simp only [lifecycle, markFailed, markTerminal, Live.commit]
    split_ifs with hrunning
    · refine Transition.set ?_ taskId
      rw [hrunning]
      exact .fails
    · exact .stays _ _
  | markCancelled id =>
    simp only [lifecycle, markCancelled, Live.commit]
    split_ifs with hterminal
    · exact .stays _ _
    · exact Transition.set (.cancels _ (by simpa using hterminal)) taskId

/-- A call that raises leaves both copies alone. -/
lemma step_of_error {s : Live α} {call : LifecycleCall} {e : PyErr}
    (h : ((lifecycle plan).step s call).2 = .error e) : ((lifecycle plan).step s call).1 = s := by
  rcases step_cases plan s call with ⟨e, heq⟩ | ⟨-, handle, -, heq⟩ | ⟨-, handle, tasks, heq⟩
  · exact congrArg Prod.fst heq
  · rw [heq] at h
    cases h
  · rw [heq] at h
    cases h

/-- A call that returns has written the handle, unless it is a load. -/
lemma written_of_ok {s : Live α} {call : LifecycleCall} {tasks : List ReadyTask}
    (h : ((lifecycle plan).step s call).2 = .ok tasks) (hcall : call ≠ .loadState) :
    ((lifecycle plan).step s call).1.store.get? plan.planId =
      some ((lifecycle plan).step s call).1.handle.toStoreDict := by
  rcases step_cases plan s call with ⟨e, heq⟩ | ⟨hload, -⟩ | ⟨-, handle, tasks, heq⟩
  · rw [heq] at h
    cases h
  · exact absurd hload hcall
  · rw [heq]
    exact get?_persist _ _ _

/-- A task that is not done can be cancelled. -/
lemma step_markCancelled {s : Live α} {taskId : String}
    (hopen : (s.handle.statusOf taskId).isTerminal = false) :
    ((lifecycle plan).step s (.markCancelled taskId)).2 = .ok [] ∧
      ((lifecycle plan).step s (.markCancelled taskId)).1.handle.statusOf taskId = .cancelled := by
  show (s.commit (markCancelled s.store plan.planId taskId s.handle)).2 = _ ∧
    RuntimeState.statusOf (s.commit (markCancelled s.store plan.planId taskId s.handle)).1.handle
      taskId = _
  unfold markCancelled
  rw [if_neg (by simp [hopen])]
  refine ⟨rfl, ?_⟩
  show RuntimeState.statusOf (s.handle.set taskId .cancelled) taskId = .cancelled
  rw [statusOf_set, if_pos rfl]

end Synced

/-! ## The lifecycle over whole runs -/

section Runs

variable {α : Type*} {plan : RoboticsPlanDraft α}

/-- A task that is done is not moved. -/
lemma Transition.of_isTerminal {nodes : List TaskNode} {runtime : RuntimeState} {taskId : String}
    {call : LifecycleCall} {before after : TaskStatus}
    (h : Transition nodes runtime taskId call before after) (hdone : before.isTerminal = true) :
    after = before := by
  cases h with
  | stays => rfl
  | readies | runs | succeeds | fails => cases hdone
  | cancels _ hopen =>
    rw [hopen] at hdone
    cases hdone

/-- A task that has started is not ready again. -/
lemma Transition.of_nonEmittable {nodes : List TaskNode} {runtime : RuntimeState}
    {taskId : String} {call : LifecycleCall} {before after : TaskStatus}
    (h : Transition nodes runtime taskId call before after) (hstart : before.nonEmittable = true) :
    after.nonEmittable = true := by
  cases h with
  | stays => exact hstart
  | readies | runs => cases hstart
  | succeeds | fails | cancels => rfl

/-- The call starts the task: it moves it from ready to running. -/
def Starts (plan : RoboticsPlanDraft α) (taskId : String) (s : Live α) (call : LifecycleCall) :
    Prop :=
  s.handle.statusOf taskId = .ready ∧
    ((lifecycle plan).step s call).1.handle.statusOf taskId = .running

instance (taskId : String) (s : Live α) (call : LifecycleCall) :
    Decidable (Starts plan taskId s call) := inferInstanceAs (Decidable (_ ∧ _))

/-- A task starts at most once. -/
lemma countSteps_starts {s : Live α} (h : Synced plan s) (taskId : String)
    (calls : List LifecycleCall) :
    (lifecycle plan).countSteps (Starts plan taskId) s calls ≤ 1 := by
  refine Machine.countSteps_le_one (I := Synced plan)
    (J := fun s => (s.handle.statusOf taskId).nonEmittable = true) ?_ ?_ ?_ ?_ h calls
  · intro s call hs
    exact hs.step call
  · intro s call hs hstarted
    exact (hs.transition call taskId).of_nonEmittable hstarted
  · rintro s call hstarted ⟨hready, -⟩
    rw [hready] at hstarted
    cases hstarted
  · rintro s call - ⟨-, hrunning⟩
    rw [hrunning]
    rfl

/-- What is done stays done. -/
lemma Synced.terminal_run {s : Live α} (h : Synced plan s) {taskId : String}
    (hdone : (s.handle.statusOf taskId).isTerminal = true) (calls : List LifecycleCall) :
    ((lifecycle plan).run s calls).handle.statusOf taskId = s.handle.statusOf taskId := by
  induction calls generalizing s with
  | nil => rfl
  | cons call calls ih =>
    have hkeep : ((lifecycle plan).step s call).1.handle.statusOf taskId =
        s.handle.statusOf taskId := (h.transition call taskId).of_isTerminal hdone
    rw [Machine.run_cons, ih (h.step call) (by rw [hkeep]; exact hdone), hkeep]

/-- A dependency that is met stays met. -/
lemma Synced.dependenciesMet_step {s : Live α} (h : Synced plan s) (call : LifecycleCall)
    {node : TaskNode} (hmet : dependenciesMet node s.handle = true) :
    dependenciesMet node ((lifecycle plan).step s call).1.handle = true := by
  unfold dependenciesMet at hmet ⊢
  cases hafter : node.after with
  | none => rfl
  | some after =>
    rw [hafter] at hmet
    have hdone : s.handle.statusOf (afterRef after) = .succeeded := beq_iff_eq.mp hmet
    have hkeep := (h.transition call (afterRef after)).of_isTerminal (by rw [hdone]; rfl)
    rw [hdone] at hkeep
    exact beq_iff_eq.mpr hkeep

/-- The statuses a task has only after its dependency released it. -/
def needsRelease : TaskStatus → Bool
  | .ready | .running | .succeeded | .failed => true
  | .pending | .cancelled => false

/-- Every task that needed a release has a node whose dependency is met. -/
def Released (plan : RoboticsPlanDraft α) (s : Live α) : Prop :=
  ∀ taskId, needsRelease (s.handle.statusOf taskId) = true →
    ∃ node ∈ plan.taskGraph, node.id = taskId ∧ dependenciesMet node s.handle = true

/-- **Step, the release.**  Every call keeps the tasks released. -/
lemma Released.step {s : Live α} (hsync : Synced plan s) (h : Released plan s)
    (call : LifecycleCall) : Released plan ((lifecycle plan).step s call).1 := by
  intro taskId hneeds
  have hmove := hsync.transition call taskId
  have hbefore : needsRelease (s.handle.statusOf taskId) = true →
      ∃ node ∈ plan.taskGraph, node.id = taskId ∧
        dependenciesMet node ((lifecycle plan).step s call).1.handle = true := by
    intro hneeded
    obtain ⟨node, hnode, hid, hmet⟩ := h taskId hneeded
    exact ⟨node, hnode, hid, hsync.dependenciesMet_step call hmet⟩
  generalize s.handle.statusOf taskId = before at hmove hbefore
  generalize hafter : ((lifecycle plan).step s call).1.handle.statusOf taskId = after
    at hmove hneeds
  cases hmove with
  | stays => exact hbefore hneeds
  | readies node hnode hid hmet => exact ⟨node, hnode, hid, hsync.dependenciesMet_step _ hmet⟩
  | runs | succeeds | fails => exact hbefore rfl
  | cancels => cases hneeds

/-- What the calls so far say about the state. -/
structure Lifecycle (plan : RoboticsPlanDraft α) (store : TaskGraphStore α)
    (past : List LifecycleCall) (s : Live α) : Prop where
  synced : Synced plan s
  released : Released plan s
  started : ∀ taskId, s.handle.statusOf taskId ∈ [.running, .succeeded, .failed] →
    ∃ pre post, past = pre ++ post ∧
      ((lifecycle plan).run (.start store) pre).handle.statusOf taskId = .running

lemma lifecycle_run {store : TaskGraphStore α} (hstore : store.get? plan.planId = none)
    (calls : List LifecycleCall) :
    Lifecycle plan store calls ((lifecycle plan).run (.start store) calls) := by
  refine Machine.run_history (I := Lifecycle plan store) ?_ ?_ calls
  · have hpending : ∀ taskId, (Live.start store : Live α).handle.statusOf taskId = .pending :=
      fun _ => rfl
    refine ⟨synced_start hstore, ?_, ?_⟩
    · intro taskId hneeds
      rw [hpending] at hneeds
      cases hneeds
    · intro taskId hstarted
      rw [hpending] at hstarted
      simp at hstarted
  · intro past call h
    refine ⟨h.synced.step call, h.released.step h.synced call, ?_⟩
    intro taskId hstarted
    have hmove := h.synced.transition call taskId
    have hearlier := h.started taskId
    have hnow : ((lifecycle plan).run (.start store) (past ++ [call])).handle.statusOf taskId =
        ((lifecycle plan).step ((lifecycle plan).run (.start store) past) call).1.handle.statusOf
          taskId := by rw [Machine.run_concat]
    generalize ((lifecycle plan).run (.start store) past).handle.statusOf taskId = before
      at hmove hearlier
    generalize ((lifecycle plan).step ((lifecycle plan).run (.start store) past)
      call).1.handle.statusOf taskId = after at hmove hstarted hnow
    have hextend : before ∈ [TaskStatus.running, .succeeded, .failed] →
        ∃ pre post, past ++ [call] = pre ++ post ∧
          ((lifecycle plan).run (.start store) pre).handle.statusOf taskId = .running := by
      intro hbefore
      obtain ⟨pre, post, hsplit, hrunning⟩ := hearlier hbefore
      exact ⟨pre, post ++ [call], by rw [hsplit, List.append_assoc], hrunning⟩
    cases hmove with
    | stays => exact hextend hstarted
    | readies | cancels => simp at hstarted
    | runs => exact ⟨past ++ [.markRunning taskId], [], by simp, hnow⟩
    | succeeds | fails => exact hextend (by simp)

/-- **The task lifecycle.**  Take a plan whose task ids are distinct, a store without a record of
it, and calls in any order, some of which may raise.  Then every task starts at most once; what is
done stays done; a task that is running or done other than by a cancel was running at some point,
and its dependency had succeeded then; and whatever is not done can be cancelled.  A call that
raises changes neither copy of the state.  After a call that returns, the record, as it is read, is
the handle: a call that moves tasks has written it, and loading keeps it.  What is written is read
back unchanged. -/
theorem task_lifecycle (plan : RoboticsPlanDraft α)
    (hids : (plan.taskGraph.map TaskNode.id).Nodup) (store : TaskGraphStore α)
    (hstore : store.get? plan.planId = none) (calls : List LifecycleCall) :
    let M := lifecycle plan
    let s := M.run (.start store) calls
    (∀ taskId, M.countSteps (Starts plan taskId) (.start store) calls ≤ 1) ∧
    (∀ taskId, (s.handle.statusOf taskId).isTerminal = true →
      ∀ more, (M.run s more).handle.statusOf taskId = s.handle.statusOf taskId) ∧
    (∀ taskId, s.handle.statusOf taskId ∈ [.running, .succeeded, .failed] →
      ∃ pre post, calls = pre ++ post ∧
        let t := M.run (.start store) pre
        t.handle.statusOf taskId = .running ∧ (∃ node ∈ plan.taskGraph, node.id = taskId) ∧
          ∀ node ∈ plan.taskGraph, node.id = taskId →
            ∀ after, node.after = some after →
              t.handle.statusOf (afterRef after) = .succeeded) ∧
    (∀ taskId, (s.handle.statusOf taskId).isTerminal = false →
      (M.step s (.markCancelled taskId)).2 = .ok [] ∧
        (M.step s (.markCancelled taskId)).1.handle.statusOf taskId = .cancelled) ∧
    (∀ call e, (M.step s call).2 = .error e → (M.step s call).1 = s) ∧
    (∀ call tasks, (M.step s call).2 = .ok tasks →
      let t := (M.step s call).1
      loadState t.store plan.planId = .ok t.handle ∧
        (call ≠ .loadState → t.store.get? plan.planId = some t.handle.toStoreDict) ∧
        ∀ record, t.store.get? plan.planId = some record → record = t.handle.toStoreDict) ∧
    RuntimeState.fromStoreDict (some (s.handle.toStoreDict : Dict String (PyVal α))) =
      .ok s.handle := by
  intro M s
  have hlife : Lifecycle plan store calls s := lifecycle_run hstore calls
  have hsync : Synced plan s := hlife.synced
  refine ⟨?_, ?_, ?_, ?_, ?_, ?_, RuntimeState.fromStoreDict_toStoreDict s.handle⟩
  · intro taskId
    exact countSteps_starts (synced_start hstore) taskId calls
  · intro taskId hdone more
    exact hsync.terminal_run hdone more
  · intro taskId hstarted
    obtain ⟨pre, post, hsplit, hrunning⟩ := hlife.started taskId hstarted
    obtain ⟨node, hnode, hid, hmet⟩ :=
      (lifecycle_run hstore pre).released taskId (by rw [hrunning]; rfl)
    refine ⟨pre, post, hsplit, hrunning, ⟨node, hnode, hid⟩, ?_⟩
    intro other hother hotherId after hafter
    obtain rfl : other = node :=
      List.inj_on_of_nodup_map hids hother hnode (hotherId.trans hid.symm)
    unfold dependenciesMet at hmet
    rw [hafter] at hmet
    exact beq_iff_eq.mp hmet
  · intro taskId hopen
    exact step_markCancelled hopen
  · intro call e herror
    exact step_of_error herror
  · intro call tasks hok t
    have ht : Synced plan t := hsync.step call
    refine ⟨ht.loadState, written_of_ok hok, ?_⟩
    intro record hrecord
    rcases ht with hsome | ⟨hnone, -⟩
    · rw [hsome] at hrecord
      exact (Option.some.inj hrecord).symm
    · rw [hnone] at hrecord
      cases hrecord

/-- Two tasks in a row: the second cannot start before the first has succeeded, and both end up
done. -/
theorem task_lifecycle_in_a_row :
    let plan : RoboticsPlanDraft ℚ :=
      { planId := "p1"
        taskGraph := [{ id := "t1", robot := "bot1", action := "navigate" },
          { id := "t2", robot := "bot1", action := "navigate", after := some "t1.completed" }] }
    let calls : List LifecycleCall :=
      [.readyTasks, .markRunning "t2", .markRunning "t1", .loadState, .markSucceeded "t1",
        .readyTasks, .markRunning "t2", .markFailed "t2"]
    let s := (lifecycle plan).run (.start .empty) calls
    (lifecycle plan).countSteps (Starts plan "t2") (.start .empty) calls = 1 ∧
      (lifecycle plan).countSteps (Starts plan "t2") (.start .empty) calls ≤ 1 ∧
      s.handle.statusOf "t1" = .succeeded ∧ s.handle.statusOf "t2" = .failed := by
  intro plan calls s
  have h := task_lifecycle plan (by decide) .empty rfl calls
  exact ⟨by decide +kernel, h.1 "t2", by decide +kernel, by decide +kernel⟩

end Runs

end TaskGraphExecutor

end MiniatureWarehouse
