import MiniatureWarehouse.Planning.PlanProgress
import Mathlib.Data.List.TakeWhile

/-!
# Which task a dependency waits for

A task names its predecessor as `<task_id>.completed`.  The validator and the executor both read
the predecessor as the text before the first dot, and compare nothing after it.  For an id without
a dot that is the task named.  An id that contains one is cut: `a.b.completed` waits for `a`, and an
accepted plan may hold both tasks.

`Plain` says of a plan that each of its dependencies is the id of a task without a dot, followed by
the suffix.  Plain plans are faithful in every state of the executor.  Where no two tasks share an
id, an accepted plan that is faithful is plain: the run that shows it completes the tasks before the
one whose dependency is cut, one after another, and none of them has a dot in its id.
-/

namespace MiniatureWarehouse

/-! ## References -/

/-- An id without a dot. -/
def Dotless (id : String) : Prop := '.' ∉ id.toList

lemma dotless_afterRef (after : String) : Dotless (afterRef after) := by
  unfold Dotless afterRef
  rw [String.toList_ofList]
  intro hdot
  have hne := List.mem_takeWhile_imp hdot
  simp at hne

/-- An id without a dot is read back from the reference to it. -/
lemma afterRef_completed {id : String} (h : Dotless id) : afterRef (id ++ ".completed") = id := by
  have hall : ∀ c ∈ id.toList, (c != '.') = true := by
    intro c hc
    rw [bne_iff_ne]
    rintro rfl
    exact h hc
  have hstop : (".completed".toList.takeWhile (· != '.')) = [] := by decide
  unfold afterRef
  rw [String.toList_append, List.takeWhile_append_of_pos hall, hstop, List.append_nil,
    String.ofList_toList]

namespace TaskGraphExecutor

section Fidelity

variable {α : Type*}

/-- Every dependency is the id of a task without a dot, followed by `.completed`. -/
def Plain (plan : RoboticsPlanDraft α) : Prop :=
  ∀ node ∈ plan.taskGraph, ∀ after, node.after = some after →
    ∃ id ∈ plan.taskGraph.map TaskNode.id, after = id ++ ".completed" ∧ Dotless id

/-- What a dependency promises: it has the documented form for a task of the plan, and in whatever
state the executor is, a task is offered only when the task it names has succeeded. -/
structure Faithful (plan : RoboticsPlanDraft α) : Prop where
  form : ∀ node ∈ plan.taskGraph, ∀ after, node.after = some after →
    ∃ id ∈ plan.taskGraph.map TaskNode.id, after = id ++ ".completed"
  offered : ∀ (live : Live α) (calls : List LifecycleCall) (tasks : List ReadyTask),
    ((lifecycle plan).step ((lifecycle plan).run live calls) .readyTasks).2 = .ok tasks →
      ∀ task ∈ tasks, ∀ id, task.after = some (id ++ ".completed") →
        ((lifecycle plan).run live calls).handle.statusOf id = .succeeded

/-- A task that is offered has a node of the plan whose dependency is met. -/
lemma exists_node_of_offered {plan : RoboticsPlanDraft α} {s : Live α} {tasks : List ReadyTask}
    (h : ((lifecycle plan).step s .readyTasks).2 = .ok tasks) {task : ReadyTask}
    (htask : task ∈ tasks) :
    ∃ node ∈ plan.taskGraph, task = .fromNode node ∧ IsReady s.handle node := by
  have htasks : (readyLoop plan.taskGraph [] s.handle).1 = tasks := Except.ok.inj h
  rw [← htasks] at htask
  exact mem_readyLoop htask

/-- **Plain plans are faithful.** -/
lemma Plain.faithful {plan : RoboticsPlanDraft α} (h : Plain plan) : Faithful plan where
  form node hnode after hafter := by
    obtain ⟨id, hid, heq, -⟩ := h node hnode after hafter
    exact ⟨id, hid, heq⟩
  offered live calls tasks htasks task htask id hafter := by
    obtain ⟨node, hnode, rfl, hready⟩ := exists_node_of_offered htasks htask
    have hnodeAfter : node.after = some (id ++ ".completed") := hafter
    obtain ⟨other, -, heq, hdotless⟩ := h node hnode _ hnodeAfter
    obtain rfl : id = other := (String.append_left_inj ".completed").mp heq
    have hmet := hready.released
    unfold dependenciesMet at hmet
    rw [hnodeAfter] at hmet
    dsimp only at hmet
    rw [afterRef_completed hdotless] at hmet
    exact beq_iff_eq.mp hmet

/-! ## Driving a chain of tasks to its end -/

/-- A task with a node that is ready is offered, where no other node has its id. -/
lemma mem_readyLoop_of_isReady {nodes : List TaskNode} (hids : (nodes.map TaskNode.id).Nodup)
    {emitted : List String} {runtime : RuntimeState} {node : TaskNode} (hnode : node ∈ nodes)
    (hemitted : node.id ∉ emitted) (h : IsReady runtime node) :
    ReadyTask.fromNode node ∈ (readyLoop nodes emitted runtime).1 := by
  induction nodes generalizing emitted runtime with
  | nil => cases hnode
  | cons first nodes ih =>
    rw [List.map_cons, List.nodup_cons] at hids
    rcases List.mem_cons.mp hnode with rfl | hrest
    · have hstatus : ¬ (runtime.statusOf node.id).nonEmittable = true := by simp [h.emittable]
      simp only [readyLoop]
      rw [if_neg hstatus, if_neg hemitted, if_pos h.released]
      exact List.mem_cons_self
    · have hother : node.id ≠ first.id := by
        intro heq
        exact hids.1 (heq ▸ List.mem_map_of_mem hrest)
      have hset : ∀ status, (runtime.statusOf first.id).nonEmittable = false →
          IsReady (runtime.set first.id status) node := by
        intro status hopen
        have hunfinished : runtime.statusOf first.id ≠ .succeeded := by
          intro hdone
          rw [hdone] at hopen
          cases hopen
        refine ⟨?_, dependenciesMet_set status hunfinished h.released⟩
        rw [statusOf_set, if_neg hother]
        exact h.emittable
      simp only [readyLoop]
      split_ifs with hstatus hdup hdeps hready
      · exact ih hids.2 hrest hemitted h
      · exact ih hids.2 hrest hemitted h
      · refine List.mem_cons_of_mem _ (ih hids.2 hrest ?_ (hset .ready (by simpa using hstatus)))
        rw [List.mem_cons]
        exact fun hmem => hmem.elim hother hemitted
      · exact ih hids.2 hrest hemitted h
      · exact ih hids.2 hrest hemitted (hset .pending (by simpa using hstatus))

/-- A call that asks for the ready tasks, or starts or completes one of some tasks without a dot. -/
def Drives (ids : List String) : LifecycleCall → Prop
  | .readyTasks => True
  | .markRunning id | .markSucceeded id => id ∈ ids ∧ Dotless id
  | _ => False

lemma Drives.mono {ids ids' : List String} (hsub : ids ⊆ ids') {call : LifecycleCall}
    (h : Drives ids call) : Drives ids' call := by
  cases call with
  | readyTasks => trivial
  | markRunning id | markSucceeded id => exact ⟨hsub h.1, h.2⟩
  | loadState | markFailed | markCancelled => exact h

variable {plan : RoboticsPlanDraft α} {ids : List String}

/-- Such calls leave every other task waiting to be started. -/
lemma waits_of_drives (plan : RoboticsPlanDraft α) {calls : List LifecycleCall}
    (hcalls : ∀ call ∈ calls, Drives ids call) (id : String) (hid : ¬ (id ∈ ids ∧ Dotless id)) :
    Synced plan ((lifecycle plan).run (.start .empty) calls) ∧
      (((lifecycle plan).run (.start .empty) calls).handle.statusOf id).nonEmittable = false ∧
      ((lifecycle plan).run (.start .empty) calls).handle.statusOf id ≠ .succeeded := by
  induction calls using List.reverseRecOn with
  | nil => exact ⟨synced_start rfl, rfl, fun h => by cases h⟩
  | append_singleton past call ih =>
    obtain ⟨hsync, hopen, hunfinished⟩ :=
      ih fun call hmem => hcalls call (List.mem_append_left _ hmem)
    have hdrives := hcalls call (List.mem_append_right _ (List.mem_singleton_self call))
    rw [Machine.run_concat]
    refine ⟨hsync.step call, ?_⟩
    have hmove := hsync.transition call id
    generalize ((lifecycle plan).run (.start .empty) past).handle.statusOf id = before
      at hmove hopen hunfinished
    generalize ((lifecycle plan).step ((lifecycle plan).run (.start .empty) past)
      call).1.handle.statusOf id = after at hmove ⊢
    cases hmove with
    | stays => exact ⟨hopen, hunfinished⟩
    | readies => exact ⟨rfl, by simp⟩
    | runs => exact absurd hdrives hid
    | succeeds => exact absurd hdrives hid
    | fails | cancels => exact hdrives.elim

/-- A ready task can be offered, started and completed. -/
lemma succeeded_of_isReady (hids : (plan.taskGraph.map TaskNode.id).Nodup) {s : Live α}
    {node : TaskNode} (hnode : node ∈ plan.taskGraph) (h : IsReady s.handle node) :
    ((lifecycle plan).run s [.readyTasks, .markRunning node.id,
      .markSucceeded node.id]).handle.statusOf node.id = .succeeded := by
  have hoffered := mem_readyLoop_of_isReady hids hnode List.not_mem_nil h
  have hready : (readyLoop plan.taskGraph [] s.handle).2.statusOf node.id = .ready :=
    statusOf_of_mem_readyLoop hoffered
  simp only [Machine.run_cons, Machine.run_nil, lifecycle, readyTasks, markRunning, markSucceeded,
    markTerminal, hready, if_true, Live.commit, statusOf_set]

/-- In an order that respects the dependencies every task without a dot can be completed by driving
tasks that come no later. -/
lemma exists_calls (hids : (plan.taskGraph.map TaskNode.id).Nodup)
    (hknown : ∀ node ∈ plan.taskGraph, ∀ after, node.after = some after →
      afterRef after ∈ plan.taskGraph.map TaskNode.id ∧ afterRef after ≠ node.id)
    {order : List String} (hnodup : order.Nodup)
    (horder : Respects (refsOf (dependencyEdges plan.taskGraph)) order) {node : TaskNode}
    (hnode : node ∈ plan.taskGraph) (hmem : node.id ∈ order) (hdotless : Dotless node.id) :
    ∃ calls, (∀ call ∈ calls, Drives order call) ∧
      ((lifecycle plan).run (.start .empty) calls).handle.statusOf node.id = .succeeded := by
  induction order generalizing node with
  | nil => cases hmem
  | cons newest older ih =>
    obtain ⟨hnewest, holder⟩ := horder
    rw [List.nodup_cons] at hnodup
    have hweaken : ∀ {call}, Drives older call → Drives (newest :: older) call :=
      fun h => h.mono (List.subset_cons_self _ _)
    rcases List.mem_cons.mp hmem with rfl | hold
    · -- first the task it waits for, if there is one
      obtain ⟨calls, hcalls, hmet⟩ : ∃ calls, (∀ call ∈ calls, Drives older call) ∧
          dependenciesMet node ((lifecycle plan).run (.start .empty) calls).handle = true := by
        cases hafter : node.after with
        | none => exact ⟨[], fun _ h => absurd h List.not_mem_nil, by simp [dependenciesMet, hafter]⟩
        | some after =>
          obtain ⟨href, hne⟩ := hknown node hnode after hafter
          have hedge := (dependencyEdges_spec plan.taskGraph).2.2 node hnode after hafter href hne
          obtain ⟨first, hfirst, hid⟩ := List.mem_map.mp href
          obtain ⟨calls, hcalls, hdone⟩ := ih hnodup.2 holder hfirst
            (hid ▸ hnewest _ hedge) (hid ▸ dotless_afterRef after)
          refine ⟨calls, hcalls, ?_⟩
          rw [hid] at hdone
          simp [dependenciesMet, hafter, hdone]
      obtain ⟨-, hopen, -⟩ := waits_of_drives plan hcalls node.id
        fun h => hnodup.1 h.1
      refine ⟨calls ++ [.readyTasks, .markRunning node.id, .markSucceeded node.id], ?_, ?_⟩
      · intro call hcall
        rcases List.mem_append.mp hcall with hpast | hnow
        · exact hweaken (hcalls call hpast)
        · simp only [List.mem_cons, List.not_mem_nil, or_false] at hnow
          rcases hnow with rfl | rfl | rfl
          · trivial
          · exact ⟨List.mem_cons_self, hdotless⟩
          · exact ⟨List.mem_cons_self, hdotless⟩
      · rw [Machine.run_append]
        exact succeeded_of_isReady hids hnode ⟨hopen, hmet⟩
    · obtain ⟨calls, hcalls, hdone⟩ := ih hnodup.2 holder hnode hold hdotless
      exact ⟨calls, fun call hcall => hweaken (hcalls call hcall), hdone⟩

end Fidelity

section Accepted

variable {α : Type*} [LinearOrder α] {plan : RoboticsPlanDraft α} {ctx : PlanningContext α}

/-- **An accepted plan that is faithful is plain**, where no two tasks share an id. -/
lemma Faithful.plain (hfaithful : Faithful plan) (h : PlanValidator.PlanAccepted plan ctx)
    (hids : (plan.taskGraph.map TaskNode.id).Nodup) : Plain plan := by
  intro node hnode after hafter
  obtain ⟨id, hid, rfl⟩ := hfaithful.form node hnode after hafter
  refine ⟨id, hid, rfl, ?_⟩
  by_contra hdotted
  have hknown : ∀ node ∈ plan.taskGraph, ∀ after, node.after = some after →
      afterRef after ∈ plan.taskGraph.map TaskNode.id ∧ afterRef after ≠ node.id := by
    intro node hnode after hafter
    exact ((h.nodes node hnode).dependency after hafter).2
  obtain ⟨hnodup, hkeys, hedges⟩ := dependencyEdges_spec plan.taskGraph
  obtain ⟨order, hdistinct, horder, hcovers⟩ := exists_order_of_hasCycle_eq_false
    (fun id refs hget => refsOf_of_get? hget ▸ hnodup id) h.acyclic
  obtain ⟨newer, older, rfl⟩ := List.append_of_mem (hcovers node.id (hkeys node hnode))
  -- the task that the executor waits for comes before the node, and has no dot
  have hsuffix : Respects (refsOf (dependencyEdges plan.taskGraph)) (node.id :: older) :=
    horder.of_append
  obtain ⟨href, hne⟩ := hknown node hnode _ hafter
  have hedge := hedges node hnode _ hafter href hne
  obtain ⟨first, hfirst, hfirstId⟩ := List.mem_map.mp href
  have hdistinct' : (node.id :: older).Nodup := (List.nodup_append.mp hdistinct).2.1
  rw [List.nodup_cons] at hdistinct'
  obtain ⟨calls, hcalls, hdone⟩ := exists_calls hids hknown hdistinct'.2 hsuffix.2 hfirst
    (hfirstId ▸ hsuffix.1 _ hedge) (hfirstId ▸ dotless_afterRef _)
  obtain ⟨-, hopen, -⟩ := waits_of_drives plan hcalls node.id
    fun h => hdistinct'.1 h.1
  obtain ⟨-, -, hunfinished⟩ := waits_of_drives plan hcalls id
    fun h => hdotted h.2
  have hready : IsReady ((lifecycle plan).run (.start .empty) calls).handle node := by
    refine ⟨hopen, ?_⟩
    rw [hfirstId] at hdone
    simp [dependenciesMet, hafter, hdone]
  refine hunfinished (hfaithful.offered (.start .empty) calls _ rfl (.fromNode node) ?_ id hafter)
  exact mem_readyLoop_of_isReady hids hnode List.not_mem_nil hready

/-- **Which plans the executor is faithful to.**  A document that holds a plain plan is safe: every
dependency has the documented form, and in every state a task is offered only when the task it names
has succeeded.  Where no two tasks share an id, an accepted document is faithful on no other plan. -/
theorem dependency_fidelity (model : DraftModel α) (repr : String → String)
    (raw : List (String × PyVal α)) (ctx : PlanningContext α) (report : ValidationReport α)
    (hreport : PlanValidator.validate model repr raw ctx = .ok report)
    (haccepted : report.status = .accepted) (plan : RoboticsPlanDraft α)
    (hplan : model.validate raw = some plan) :
    (Plain plan → Faithful plan) ∧
      ((plan.taskGraph.map TaskNode.id).Nodup → (Faithful plan ↔ Plain plan)) := by
  have hplanAccepted : PlanValidator.PlanAccepted plan ctx :=
    (PlanValidator.validate_accepted hplan hreport).mp haccepted
  exact ⟨Plain.faithful, fun hids => ⟨fun h => h.plain hplanAccepted hids, Plain.faithful⟩⟩

end Accepted

/-! ## A dependency that is cut -/

/-- Three tasks; the last one is to wait for the second, whose id has a dot. -/
def dotted : RoboticsPlanDraft ℚ where
  planId := "p1"
  taskGraph := [{ id := "a", robot := "bot1", action := "wait" },
    { id := "a.b", robot := "bot1", action := "wait" },
    { id := "c", robot := "bot1", action := "wait", after := some "a.b.completed" }]

/-- **An accepted plan that is not faithful.**  The executor offers the last task once the first one
has succeeded; the task it names has not started. -/
theorem dotted_unfaithful :
    (∃ report, PlanValidator.validate (.strict ℚ) id (PlanFormat.dumpDraft dotted) {} = .ok report ∧
      report.status = .accepted) ∧ ¬ Faithful dotted := by
  have hplan : (DraftModel.strict ℚ).validate (PlanFormat.dumpDraft dotted) = some dotted :=
    (DraftModel.strict ℚ).validate_dump dotted
  refine ⟨⟨.fromRules (PlanValidator.findings id dotted {}) (PlanFormat.dumpDraft dotted), ?_, ?_⟩,
    ?_⟩
  · exact PlanValidator.validate_of_valid hplan
  · decide +kernel
  · intro hfaithful
    have hdone := hfaithful.offered (.start .empty)
      [.readyTasks, .markRunning "a", .markSucceeded "a"] _ rfl
      ⟨"c", "wait", "bot1", none, some "a.b.completed"⟩ (by decide +kernel) "a.b" rfl
    revert hdone
    decide +kernel

/-- Two tasks in a row without a dot. -/
def inARow : RoboticsPlanDraft ℚ where
  planId := "p1"
  taskGraph := [{ id := "t1", robot := "bot1", action := "wait" },
    { id := "t2", robot := "bot1", action := "wait", after := some "t1.completed" }]

/-- The validator accepts the two tasks, and the executor is faithful to their plan. -/
theorem dependency_fidelity_in_a_row : Faithful inARow := by
  have hplan : (DraftModel.strict ℚ).validate (PlanFormat.dumpDraft inARow) = some inARow :=
    (DraftModel.strict ℚ).validate_dump inARow
  have hreport : PlanValidator.validate (.strict ℚ) id (PlanFormat.dumpDraft inARow) {} =
      .ok (.fromRules (PlanValidator.findings id inARow {}) (PlanFormat.dumpDraft inARow)) :=
    PlanValidator.validate_of_valid hplan
  refine (dependency_fidelity (.strict ℚ) id (PlanFormat.dumpDraft inARow) {} _ hreport
    (by decide +kernel) inARow hplan).1 ?_
  intro node hnode after hafter
  simp only [inARow, List.mem_cons, List.not_mem_nil, or_false] at hnode
  rcases hnode with rfl | rfl
  · cases hafter
  · obtain rfl := Option.some.inj hafter
    exact ⟨"t1", by decide, by decide, by unfold Dotless; decide⟩

end TaskGraphExecutor

end MiniatureWarehouse
