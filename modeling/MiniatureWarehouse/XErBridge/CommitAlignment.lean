import MiniatureWarehouse.Planning.Pipeline
import MiniatureWarehouse.Planning.TaskLifecycle
import MiniatureWarehouse.XErBridge.Completion

/-!
# One planning cycle, with its commits

The cycle asks the model for a plan, gates it, compiles it, and only then publishes a generation
and dispatches.  The pipeline hands out nothing but the command, so the task an item came from is
found again by compiling a second time: the ready set is offered once more, and the audit of the
second compile names the tasks in the order of the items.

The second compile sees what the first one saw.  What the executor was offered and did not start
it offers again (`readyLoop_twice`), and what was persisted loads as it was.  So the items and the
ids are aligned, every accepted item starts its own task, and starting it cannot fail.
-/

namespace MiniatureWarehouse

/-! ## The audit of the compiler -/

namespace CommandCompiler

variable {α : Type*} (repr : String → String)

/-- The tasks that compile, each with its item. -/
def compiledPairs (targets : Dict String (ResolvedTarget α)) (tasks : List ReadyTask) :
    List (ReadyTask × CommandItem) :=
  tasks.filterMap fun task => (compileOne repr task targets).toOption.map fun item => (task, item)

/-- The audit names the task of each item, in the order of the items. -/
lemma compileLoop_eq (targets : Dict String (ResolvedTarget α)) (tasks : List ReadyTask) :
    (compileLoop repr targets tasks).1 = (compiledPairs repr targets tasks).map Prod.snd ∧
      (compileLoop repr targets tasks).2.1 =
        (compiledPairs repr targets tasks).map fun p => p.1.taskId := by
  induction tasks with
  | nil => exact ⟨rfl, rfl⟩
  | cons task tasks ih =>
    obtain ⟨hitems, hids⟩ := ih
    unfold compileLoop compiledPairs
    cases hone : compileOne repr task targets with
    | error reason =>
      rw [List.filterMap_cons_none (by rw [hone]; rfl)]
      exact ⟨hitems, hids⟩
    | ok item =>
      rw [List.filterMap_cons_some (b := (task, item)) (by rw [hone]; rfl)]
      exact ⟨congrArg (item :: ·) hitems, congrArg (task.taskId :: ·) hids⟩

variable {repr} in
/-- The items of a compiled command are those of the tasks that compile. -/
lemma compile_xLite {tasks : List ReadyTask} {targets : List (ResolvedTarget α)}
    {command : Command} (h : compile repr tasks targets .xLite = .ok command) :
    command.commands = (compiledPairs repr (byTarget targets) tasks).map Prod.snd := by
  unfold compile compileWithAudit at h
  rw [if_neg (not_not.mpr rfl)] at h
  rw [← (compileLoop_eq repr (byTarget targets) tasks).1, ← Except.ok.inj h]

/-- The compiled tasks, in the order of the list. -/
lemma sublist_compiledPairs (targets : Dict String (ResolvedTarget α)) (tasks : List ReadyTask) :
    ((compiledPairs repr targets tasks).map Prod.fst).Sublist tasks := by
  induction tasks with
  | nil => exact .slnil
  | cons task tasks ih =>
    unfold compiledPairs
    cases hone : compileOne repr task targets with
    | error reason =>
      rw [List.filterMap_cons_none (by rw [hone]; rfl)]
      exact ih.cons task
    | ok item =>
      rw [List.filterMap_cons_some (b := (task, item)) (by rw [hone]; rfl)]
      exact ih.cons_cons task

end CommandCompiler

instance : DecidableEq CommandItem := fun a b =>
  decidable_of_iff (a.bot = b.bot ∧ a.action = b.action ∧ a.destination = b.destination)
    ⟨fun ⟨hbot, haction, hdestination⟩ => by cases a; cases b; simp_all,
      fun h => h ▸ ⟨rfl, rfl, rfl⟩⟩

namespace XErCycle

/-! ## The cycle -/

/-- What a cycle works on: the store of the task graphs and the shared generation. -/
structure Stores (α : Type*) where
  tasks : TaskGraphStore α
  gen : Option ℤ

/-- `gen_store.get()`. -/
def Stores.curGen {α : Type*} (s : Stores α) : ℤ := s.gen.getD 0

/-- What a cycle has done outside of its own state: the stores, and the tool calls, each an item
with the generation it was tagged with. -/
structure Effects (α : Type*) where
  stores : Stores α
  calls : List (CommandItem × ℤ)

/-- What escapes from a cycle: an illegal transition of the executor, or anything else. -/
inductive Escape
  | executorError
  | raised (e : PyErr)
  deriving DecidableEq, Repr

/-- `XErCycleOutcome`, the results of the tools apart. -/
structure XErCycleOutcome where
  command : Command
  skippedReason : Option XErBridge.SkippedReason
  committed : List (String × String)
  planId : Option String

/-- The startup-composed part of a cycle. -/
structure XErRuntime (α : Type*) where
  calibration : Calibration α
  visualPolicy : VisualPolicy α

/-- What one cycle meets: what the adapter proposes, the context of the cycle, the verdict of the
composed validation on a draft, and whether the tool layer accepts the call of an item; each of
them may raise. -/
structure CycleInput (α : Type*) where
  proposal : Except PyErr (List (String × PyVal α))
  context : Except PyErr (PlanningContext α)
  gate : RoboticsPlanDraft α → PlanningContext α → Except PyErr ValidationStatus
  execute : ℕ → Except PyErr Bool

/-- `_empty_command`. -/
def emptyCommand (reason : String) : Command := ⟨reason, [], none⟩

/-- An exit without a dispatch. -/
def skipped (reason : XErBridge.SkippedReason) (command : Command) (planId : Option String) :
    XErCycleOutcome :=
  ⟨command, some reason, [], planId⟩

section Cycle

variable {α : Type*} [Field α] [LinearOrder α] [IsStrictOrderedRing α] (F : FloatFormat α)
  (L : MathLib α) (R : Pipeline.Runtime α)

omit [Field α] [LinearOrder α] [IsStrictOrderedRing α] in
/-- `_align_task_ids`: the audit of a second compile, if it reproduces the command. -/
def alignTaskIds (repr : String → String) (command : Command) (ready : List ReadyTask)
    (targets : List (ResolvedTarget α)) : Except PyErr (List (Option String)) :=
  (CommandCompiler.compileWithAudit repr ready targets .xLite).map fun audit =>
    if audit.command.commands = command.commands then audit.compiled.map some
    else List.replicate command.commands.length none

omit [Field α] [LinearOrder α] [IsStrictOrderedRing α] in
/-- The dispatch loop: the call of each item in turn, and for an accepted one the start of its
task.  What raises ends the loop. -/
def dispatchLoop (planId : String) (gen : ℤ) (execute : ℕ → Except PyErr Bool) :
    ℕ → List (CommandItem × Option String) → RuntimeState → TaskGraphStore α →
      TaskGraphStore α × List (CommandItem × ℤ) × Except Escape (List (String × String))
  | _, [], _, tasks => (tasks, [], .ok [])
  | i, (item, taskId) :: items, handle, tasks =>
    match execute i with
    | .error e => (tasks, [(item, gen)], .error (.raised e))
    | .ok false =>
      let (tasks, calls, committed) := dispatchLoop planId gen execute (i + 1) items handle tasks
      (tasks, (item, gen) :: calls, committed)
    | .ok true =>
      match taskId with
      | none =>
        let (tasks, calls, committed) :=
          dispatchLoop planId gen execute (i + 1) items handle tasks
        (tasks, (item, gen) :: calls, committed)
      | some taskId =>
        match TaskGraphExecutor.markRunning tasks planId taskId handle with
        | .error _ => (tasks, [(item, gen)], .error .executorError)
        | .ok (handle, tasks) =>
          let (tasks, calls, committed) :=
            dispatchLoop planId gen execute (i + 1) items handle tasks
          (tasks, (item, gen) :: calls, committed.map ((item.bot, taskId) :: ·))

/-- The cycle from a command that is not empty: the generation is published, the ready set is
offered again, and the items are dispatched. -/
def commit (rt : XErRuntime α) (s : Stores α) (draft : RoboticsPlanDraft α) (command : Command)
    (execute : ℕ → Except PyErr Bool) : Effects α × Except Escape XErCycleOutcome :=
  let gen := s.curGen + 1
  match TaskGraphExecutor.loadState s.tasks draft.planId with
  | .error e => (⟨⟨s.tasks, some gen⟩, []⟩, .error (.raised e))
  | .ok runtime =>
    let (ready, handle, tasks) := TaskGraphExecutor.readyTasks s.tasks draft runtime
    match VisualResolver.resolve F L rt.visualPolicy rt.calibration draft.detections with
    | .error e => (⟨⟨tasks, some gen⟩, []⟩, .error (.raised e))
    | .ok targets =>
      match alignTaskIds R.repr command ready targets with
      | .error e => (⟨⟨tasks, some gen⟩, []⟩, .error (.raised e))
      | .ok taskIds =>
        let (tasks, calls, committed) :=
          dispatchLoop draft.planId gen execute 0 (command.commands.zip taskIds) handle tasks
        (⟨⟨tasks, some gen⟩, calls⟩,
          committed.map fun committed => ⟨command, none, committed, some draft.planId⟩)

/-- `run_x_er_cycle`. -/
def runXErCycle (rt : XErRuntime α) (s : Stores α) (c : CycleInput α) :
    Effects α × Except Escape XErCycleOutcome :=
  match c.proposal with
  | .error _ =>
    (⟨s, []⟩, .ok (skipped .adapterError
      (emptyCommand "Mode X-ER: cycle skipped (adapter error)") none))
  | .ok raw =>
    match Handoff.toRoboticsPlanDraft R.scan R.model raw with
    | .error e => (⟨s, []⟩, .error (.raised e))
    | .ok draft =>
      match c.context with
      | .error e => (⟨s, []⟩, .error (.raised e))
      | .ok context =>
        match c.gate draft context with
        | .error e => (⟨s, []⟩, .error (.raised e))
        | .ok status =>
          if status ≠ .accepted then
            (⟨s, []⟩, .ok (skipped .pluginRejected
              (emptyCommand ("Mode X-ER: plan not dispatched (composed validation status=" ++
                status.value ++ ")")) (some draft.planId)))
          else
            match Pipeline.compileRawOutput F L R
                ⟨rt.calibration, rt.visualPolicy, some context, .xLite⟩ raw ⟨some s.tasks, none⟩ with
            | (.error e, injected) => (⟨{ s with tasks := injected.current }, []⟩, .error (.raised e))
            | (.ok command, injected) =>
              if command.commands = [] then
                (⟨{ s with tasks := injected.current }, []⟩,
                  .ok (skipped .emptyCommand command (some draft.planId)))
              else commit F L R rt { s with tasks := injected.current } draft command c.execute

end Cycle

/-! ## The dispatch loop -/

section Dispatch

variable {α : Type*}

/-- The elements whose calls are accepted, up to the first call that raises. -/
def acceptedOf {β : Type*} (execute : ℕ → Except PyErr Bool) : ℕ → List β → List β
  | _, [] => []
  | i, b :: bs =>
    match execute i with
    | .error _ => []
    | .ok false => acceptedOf execute (i + 1) bs
    | .ok true => b :: acceptedOf execute (i + 1) bs

/-- The elements whose calls are made: all of them, up to the first call that raises. -/
def calledOf {β : Type*} (execute : ℕ → Except PyErr Bool) : ℕ → List β → List β
  | _, [] => []
  | i, b :: bs =>
    match execute i with
    | .error _ => [b]
    | .ok _ => b :: calledOf execute (i + 1) bs

lemma calledOf_prefix {β : Type*} (execute : ℕ → Except PyErr Bool) (i : ℕ) (bs : List β) :
    calledOf execute i bs <+: bs := by
  induction bs generalizing i with
  | nil => exact List.prefix_rfl
  | cons b bs ih =>
    unfold calledOf
    cases execute i with
    | error e => exact ⟨bs, rfl⟩
    | ok accepted => exact (List.prefix_cons_inj b).mpr (ih (i + 1))

/-- Only a call that is made can be accepted. -/
lemma acceptedOf_sublist {β : Type*} (execute : ℕ → Except PyErr Bool) (i : ℕ) (bs : List β) :
    (acceptedOf execute i bs).Sublist (calledOf execute i bs) := by
  induction bs generalizing i with
  | nil => exact .slnil
  | cons b bs ih =>
    unfold acceptedOf calledOf
    cases execute i with
    | error e => exact List.nil_sublist _
    | ok accepted =>
      cases accepted with
      | false => exact (ih (i + 1)).cons b
      | true => exact (ih (i + 1)).cons_cons b

lemma calledOf_map {β γ : Type*} (execute : ℕ → Except PyErr Bool) (f : β → γ) (i : ℕ)
    (bs : List β) : calledOf execute i (bs.map f) = (calledOf execute i bs).map f := by
  induction bs generalizing i with
  | nil => rfl
  | cons b bs ih =>
    rw [List.map_cons]
    unfold calledOf
    cases execute i with
    | error e => rfl
    | ok accepted => exact congrArg (f b :: ·) (ih (i + 1))

lemma acceptedOf_map {β γ : Type*} (execute : ℕ → Except PyErr Bool) (f : β → γ) (i : ℕ)
    (bs : List β) : acceptedOf execute i (bs.map f) = (acceptedOf execute i bs).map f := by
  induction bs generalizing i with
  | nil => rfl
  | cons b bs ih =>
    rw [List.map_cons]
    unfold acceptedOf
    cases execute i with
    | error e => rfl
    | ok accepted =>
      cases accepted with
      | false => exact ih (i + 1)
      | true => exact congrArg (f b :: ·) (ih (i + 1))

/-- What the dispatch loop has done when it ends: it made the calls, it started
the tasks of the accepted ones, and nothing but a tool made it fail. -/
structure DispatchedAll (planId : String) (gen : ℤ) (handle : RuntimeState)
    (called accepted : List (CommandItem × String))
    (result : TaskGraphStore α × List (CommandItem × ℤ) × Except Escape (List (String × String)))
    (tasks : TaskGraphStore α) : Prop where
  calls : result.2.1 = called.map fun p => (p.1, gen)
  started : ∃ after, TaskGraphExecutor.loadState result.1 planId = .ok after ∧
    ∀ t, after.statusOf t = if t ∈ accepted.map Prod.snd then .running else handle.statusOf t
  others : ∀ other, other ≠ planId → result.1.get? other = tasks.get? other
  escapes : result.2.2 ≠ .error .executorError
  committed : ∀ committed, result.2.2 = .ok committed →
    committed = accepted.map fun p => (p.1.bot, p.2)

lemma get?_persist_of_ne (tasks : TaskGraphStore α) {planId other : String} (h : other ≠ planId)
    (handle : RuntimeState) :
    (TaskGraphExecutor.persist tasks planId handle).get? other = tasks.get? other :=
  Dict.get?_set_of_ne _ _ h

/-- **Specification of the dispatch loop.**  With ready tasks that differ, every accepted item
starts its own. -/
lemma dispatchLoop_spec (planId : String) (gen : ℤ) (execute : ℕ → Except PyErr Bool) (i : ℕ)
    (items : List (CommandItem × String)) {handle : RuntimeState} {tasks : TaskGraphStore α}
    (hload : TaskGraphExecutor.loadState tasks planId = .ok handle)
    (hnodup : (items.map Prod.snd).Nodup)
    (hready : ∀ p ∈ items, handle.statusOf p.2 = .ready) :
    DispatchedAll planId gen handle (calledOf execute i items) (acceptedOf execute i items)
      (dispatchLoop planId gen execute i (items.map fun p => (p.1, some p.2)) handle tasks)
      tasks := by
  induction items generalizing i handle tasks with
  | nil =>
    exact ⟨rfl, ⟨handle, hload, fun t => by simp [acceptedOf]⟩, fun _ _ => rfl, nofun,
      fun committed h => by cases h; rfl⟩
  | cons p items ih =>
    obtain ⟨item, taskId⟩ := p
    rw [List.map_cons, List.nodup_cons] at hnodup
    rw [List.map_cons]
    unfold dispatchLoop acceptedOf calledOf
    cases hexecute : execute i with
    | error e =>
      exact ⟨rfl, ⟨handle, hload, fun t => by simp⟩, fun _ _ => rfl, nofun,
        fun committed h => by cases h⟩
    | ok accepted =>
      cases accepted with
      | false =>
        have hrest := ih (i + 1) hload hnodup.2 fun p hp => hready p (List.mem_cons_of_mem _ hp)
        exact ⟨congrArg ((item, gen) :: ·) hrest.calls, hrest.started, hrest.others, hrest.escapes,
          hrest.committed⟩
      | true =>
        have htask : handle.statusOf taskId = .ready := hready (item, taskId) List.mem_cons_self
        have hmark : TaskGraphExecutor.markRunning tasks planId taskId handle =
            .ok (handle.set taskId .running,
              TaskGraphExecutor.persist tasks planId (handle.set taskId .running)) := by
          rw [TaskGraphExecutor.markRunning, if_pos htask]
        have hother : ∀ p ∈ items,
            RuntimeState.statusOf (handle.set taskId .running) p.2 = .ready := by
          intro p hp
          have hne : p.2 ≠ taskId := fun h => hnodup.1 (List.mem_map.mpr ⟨p, hp, h⟩)
          rw [TaskGraphExecutor.statusOf_set, if_neg hne]
          exact hready p (List.mem_cons_of_mem _ hp)
        have hpersist : TaskGraphExecutor.loadState (TaskGraphExecutor.persist tasks planId
            (handle.set taskId .running)) planId = .ok (handle.set taskId .running) := by
          unfold TaskGraphExecutor.loadState
          rw [TaskGraphExecutor.get?_persist]
          exact RuntimeState.fromStoreDict_toStoreDict _
        have hrest := ih (i + 1) hpersist hnodup.2 hother
        obtain ⟨after, hafter, hstatus⟩ := hrest.started
        simp only [hmark]
        refine ⟨congrArg ((item, gen) :: ·) hrest.calls, ⟨after, hafter, ?_⟩, ?_, ?_, ?_⟩
        · intro t
          rw [hstatus t, TaskGraphExecutor.statusOf_set, List.map_cons]
          by_cases ht : t = taskId
          · simp [ht]
          · simp only [List.mem_cons, ht, false_or, if_false]
        · intro other hne
          rw [hrest.others other hne]
          exact get?_persist_of_ne tasks hne _
        · intro herror
          exact hrest.escapes (exceptMap_eq_error.mp herror)
        · intro committed hok
          obtain ⟨rest, hrestOk, rfl⟩ := exceptMap_eq_ok.mp hok
          rw [hrest.committed rest hrestOk]
          rfl

end Dispatch

/-! ## What the stores say about running tasks -/

section Running

variable {α : Type*}

lemma runningUnder_iff {tasks : TaskGraphStore α} {planId : String} {handle : RuntimeState}
    (h : TaskGraphExecutor.loadState tasks planId = .ok handle) (t : String) :
    XErBridge.RunningUnder tasks planId t ↔ handle.statusOf t = .running := by
  unfold XErBridge.RunningUnder
  rw [h]
  exact Option.some_inj

lemma runningUnder_congr {tasks tasks' : TaskGraphStore α} {planId : String}
    (h : tasks'.get? planId = tasks.get? planId) (t : String) :
    XErBridge.RunningUnder tasks' planId t ↔ XErBridge.RunningUnder tasks planId t := by
  unfold XErBridge.RunningUnder TaskGraphExecutor.loadState
  rw [h]

/-- Offering tasks is persisted, and starts none of them. -/
lemma loadState_readyTasks (tasks : TaskGraphStore α) (draft : RoboticsPlanDraft α)
    (runtime : RuntimeState) :
    TaskGraphExecutor.loadState (TaskGraphExecutor.readyTasks tasks draft runtime).2.2
      draft.planId = .ok (TaskGraphExecutor.readyTasks tasks draft runtime).2.1 := by
  unfold TaskGraphExecutor.loadState TaskGraphExecutor.readyTasks
  rw [TaskGraphExecutor.get?_persist]
  exact RuntimeState.fromStoreDict_toStoreDict _

lemma running_readyTasks (tasks : TaskGraphStore α) (draft : RoboticsPlanDraft α)
    (runtime : RuntimeState) (t : String) :
    (TaskGraphExecutor.readyTasks tasks draft runtime).2.1.statusOf t = .running ↔
      runtime.statusOf t = .running := by
  have hmove := TaskGraphExecutor.statusOf_readyLoop draft.taskGraph [] runtime t
  show (TaskGraphExecutor.readyLoop draft.taskGraph [] runtime).2.statusOf t = .running ↔ _
  generalize runtime.statusOf t = before at hmove
  generalize (TaskGraphExecutor.readyLoop draft.taskGraph [] runtime).2.statusOf t = after at hmove
  cases hmove with
  | stays => rfl
  | readies => simp

lemma runningUnder_readyTasks {tasks : TaskGraphStore α} {draft : RoboticsPlanDraft α}
    {runtime : RuntimeState}
    (hload : TaskGraphExecutor.loadState tasks draft.planId = .ok runtime) (planId t : String) :
    XErBridge.RunningUnder (TaskGraphExecutor.readyTasks tasks draft runtime).2.2 planId t ↔
      XErBridge.RunningUnder tasks planId t := by
  by_cases hplan : planId = draft.planId
  · subst hplan
    rw [runningUnder_iff (loadState_readyTasks tasks draft runtime), runningUnder_iff hload,
      running_readyTasks]
  · exact runningUnder_congr (get?_persist_of_ne tasks hplan _) t

/-- After the dispatch loop the tasks of the accepted items run, and those that ran before it. -/
lemma DispatchedAll.running {planId : String} {gen : ℤ} {handle : RuntimeState}
    {called accepted : List (CommandItem × String)}
    {result : TaskGraphStore α × List (CommandItem × ℤ) × Except Escape (List (String × String))}
    {tasks : TaskGraphStore α} (h : DispatchedAll planId gen handle called accepted result tasks)
    (hload : TaskGraphExecutor.loadState tasks planId = .ok handle) (other t : String) :
    XErBridge.RunningUnder result.1 other t ↔
      XErBridge.RunningUnder tasks other t ∨ other = planId ∧ t ∈ accepted.map Prod.snd := by
  by_cases hplan : other = planId
  · subst hplan
    obtain ⟨after, hafter, hstatus⟩ := h.started
    rw [runningUnder_iff hafter, runningUnder_iff hload, hstatus t]
    split_ifs with hmem
    · exact iff_of_true rfl (.inr ⟨rfl, hmem⟩)
    · exact ⟨.inl, fun hor => hor.resolve_right fun hand => hmem hand.2⟩
  · rw [runningUnder_congr (h.others other hplan)]
    exact ⟨.inl, fun hor => hor.resolve_right fun hand => hplan hand.1⟩

end Running

/-! ## The compile before the dispatch -/

section Compile

variable {α : Type*} [Field α] [LinearOrder α] [IsStrictOrderedRing α] {F : FloatFormat α}
  {L : MathLib α} {R : Pipeline.Runtime α}

/-- What a compile over the store of the executor did: it touched nothing, or it offered the tasks
of the plan, and then its command holds the items of the tasks that compile. -/
lemma compileRawOutput_cases {rt : XErRuntime α} {context : PlanningContext α}
    {raw : List (String × PyVal α)} {tasks : TaskGraphStore α} {draft : RoboticsPlanDraft α}
    (hdraft : Handoff.toRoboticsPlanDraft R.scan R.model raw = .ok draft)
    {result : Except PyErr Command} {injected : Pipeline.Injected α}
    (h : Pipeline.compileRawOutput F L R ⟨rt.calibration, rt.visualPolicy, some context, .xLite⟩ raw
      ⟨some tasks, none⟩ = (result, injected)) :
    (injected.current = tasks ∧ ∀ command, result = .ok command → command.commands = []) ∨
    ∃ targets runtime,
      VisualResolver.resolve F L rt.visualPolicy rt.calibration draft.detections = .ok targets ∧
      TaskGraphExecutor.loadState tasks draft.planId = .ok runtime ∧
      injected.current = (TaskGraphExecutor.readyTasks tasks draft runtime).2.2 ∧
      ∀ command, result = .ok command → command.commands =
        (CommandCompiler.compiledPairs R.repr (CommandCompiler.byTarget targets)
          (TaskGraphExecutor.readyTasks tasks draft runtime).1).map Prod.snd := by
  have hkeep : ∀ {result' : Except PyErr Command},
      (∀ command, result' = .ok command → command.commands = []) →
      (result', (⟨some tasks, none⟩ : Pipeline.Injected α)) = (result, injected) →
      injected.current = tasks ∧ ∀ command, result = .ok command → command.commands = [] := by
    intro result' hempty heq
    obtain ⟨rfl, rfl⟩ := Prod.mk.inj heq
    exact ⟨rfl, hempty⟩
  unfold Pipeline.compileRawOutput at h
  simp only [Pipeline.Injected.ambiguous, Option.isSome_none, Bool.and_false, Bool.false_eq_true,
    if_false, hdraft] at h
  split at h
  · exact .inl (hkeep (fun _ hok => by cases hok) h)
  · rename_i report hreport
    split_ifs at h with hpermits
    · unfold Pipeline.dispatchPlan at h
      cases hresolve : VisualResolver.resolve F L rt.visualPolicy rt.calibration
          draft.detections with
      | error e =>
        rw [hresolve] at h
        exact .inl (hkeep (fun _ hok => by cases hok) h)
      | ok targets =>
        have hcurrent : (⟨some tasks, none⟩ : Pipeline.Injected α).current = tasks := rfl
        rw [hresolve, hcurrent] at h
        cases hload : TaskGraphExecutor.loadState tasks draft.planId with
        | error e =>
          rw [hload] at h
          exact .inl (hkeep (fun _ hok => by cases hok) h)
        | ok runtime =>
          rw [hload] at h
          obtain ⟨rfl, rfl⟩ := Prod.mk.inj h
          refine .inr ⟨targets, runtime, rfl, rfl, rfl, ?_⟩
          intro command hcommand
          exact CommandCompiler.compile_xLite hcommand
    · refine .inl (hkeep ?_ h)
      intro command hcommand
      rw [← Except.ok.inj hcommand]
      rfl

/-- The items as the loop dispatches them, each with the id of its task. -/
def itemsOf (pairs : List (ReadyTask × CommandItem)) : List (CommandItem × String) :=
  pairs.map fun p => (p.2, p.1.taskId)

omit [Field α] [LinearOrder α] [IsStrictOrderedRing α] in
/-- The tasks of compiled items differ, and the offer they come from has left them ready. -/
lemma startable_itemsOf (repr : String → String) (targets : Dict String (ResolvedTarget α))
    (draft : RoboticsPlanDraft α) (tasks : TaskGraphStore α) (runtime : RuntimeState) :
    let offered := TaskGraphExecutor.readyTasks tasks draft runtime
    let items := itemsOf (CommandCompiler.compiledPairs repr targets offered.1)
    (items.map Prod.snd).Nodup ∧ ∀ p ∈ items, offered.2.1.statusOf p.2 = .ready := by
  intro offered items
  have hsub := CommandCompiler.sublist_compiledPairs repr targets offered.1
  have hids : items.map Prod.snd =
      ((CommandCompiler.compiledPairs repr targets offered.1).map Prod.fst).map
        ReadyTask.taskId := by
    show (itemsOf _).map Prod.snd = _
    rw [itemsOf, List.map_map, List.map_map]
    rfl
  refine ⟨?_, ?_⟩
  · rw [hids]
    exact (TaskGraphExecutor.nodup_readyLoop draft.taskGraph [] runtime).1.sublist
      (hsub.map ReadyTask.taskId)
  · intro p hp
    obtain ⟨q, hq, rfl⟩ := List.mem_map.mp hp
    exact TaskGraphExecutor.statusOf_of_mem_readyLoop
      (hsub.subset (List.mem_map_of_mem (f := Prod.fst) hq))

omit [Field α] [LinearOrder α] [IsStrictOrderedRing α] in
/-- A second compile of the same ready set names the task of each item. -/
lemma alignTaskIds_eq (repr : String → String) {command : Command} {ready : List ReadyTask}
    {targets : List (ResolvedTarget α)}
    (h : command.commands =
      (CommandCompiler.compiledPairs repr (CommandCompiler.byTarget targets) ready).map Prod.snd) :
    alignTaskIds repr command ready targets =
      .ok ((CommandCompiler.compiledPairs repr (CommandCompiler.byTarget targets) ready).map
        fun p => some p.1.taskId) := by
  obtain ⟨hitems, hids⟩ :=
    CommandCompiler.compileLoop_eq repr (CommandCompiler.byTarget targets) ready
  unfold alignTaskIds CommandCompiler.compileWithAudit
  rw [if_neg (not_not.mpr rfl)]
  simp only [Except.map, hitems, hids, h, if_true, List.map_map]
  rfl

end Compile

/-! ## The whole cycle -/

section Alignment

variable {α : Type*} [Field α] [LinearOrder α] [IsStrictOrderedRing α] (F : FloatFormat α)
  (L : MathLib α) (R : Pipeline.Runtime α)

/-- What stands behind a dispatch: the ready tasks of the plan that compile, each with its item;
the calls and the commits, which are those of these pairs in their order; and the tasks that run
afterwards. -/
structure Aligned (rt : XErRuntime α) (s : Stores α) (execute : ℕ → Except PyErr Bool)
    (effects : Effects α) (result : Except Escape XErCycleOutcome) (draft : RoboticsPlanDraft α)
    (runtime : RuntimeState) (targets : List (ResolvedTarget α))
    (pairs : List (ReadyTask × CommandItem)) : Prop where
  resolved : VisualResolver.resolve F L rt.visualPolicy rt.calibration draft.detections =
    .ok targets
  loaded : TaskGraphExecutor.loadState s.tasks draft.planId = .ok runtime
  pairs_eq : pairs = CommandCompiler.compiledPairs R.repr (CommandCompiler.byTarget targets)
    (TaskGraphExecutor.readyTasks s.tasks draft runtime).1
  published : effects.stores.gen = some (s.curGen + 1)
  calls : effects.calls = (calledOf execute 0 pairs).map fun p => (p.2, s.curGen + 1)
  called : calledOf execute 0 pairs <+: pairs
  running : ∀ planId t, XErBridge.RunningUnder effects.stores.tasks planId t ↔
    XErBridge.RunningUnder s.tasks planId t ∨
      planId = draft.planId ∧ ∃ p ∈ acceptedOf execute 0 pairs, p.1.taskId = t
  committed : ∀ outcome, result = .ok outcome →
    outcome.command.commands = pairs.map Prod.snd ∧
      outcome.committed = (acceptedOf execute 0 pairs).map fun p => (p.2.bot, p.1.taskId)

variable {F L R}

/-- A commit whose command holds the items of the ready set it is offered dispatches each of them
under the id of its task. -/
lemma commit_eq {rt : XErRuntime α} {s : Stores α} {draft : RoboticsPlanDraft α}
    {targets : List (ResolvedTarget α)} {runtime : RuntimeState} {command : Command}
    {pairs : List (ReadyTask × CommandItem)}
    (hresolve : VisualResolver.resolve F L rt.visualPolicy rt.calibration draft.detections =
      .ok targets)
    (hload : TaskGraphExecutor.loadState s.tasks draft.planId = .ok runtime)
    (hpairs : pairs = CommandCompiler.compiledPairs R.repr (CommandCompiler.byTarget targets)
      (TaskGraphExecutor.readyTasks s.tasks draft runtime).1)
    (hcommands : command.commands = pairs.map Prod.snd) (execute : ℕ → Except PyErr Bool) :
    let offered := TaskGraphExecutor.readyTasks s.tasks draft runtime
    let loop := dispatchLoop draft.planId (s.curGen + 1) execute 0
      ((itemsOf pairs).map fun p => (p.1, some p.2)) offered.2.1 offered.2.2
    commit F L R rt s draft command execute = (⟨⟨loop.1, some (s.curGen + 1)⟩, loop.2.1⟩,
      loop.2.2.map fun committed => ⟨command, none, committed, some draft.planId⟩) := by
  intro offered loop
  have halign : alignTaskIds R.repr command offered.1 targets =
      .ok (pairs.map fun p => some p.1.taskId) := by
    rw [hpairs]
    exact alignTaskIds_eq R.repr (by rw [hcommands, hpairs])
  have hzip : command.commands.zip (pairs.map fun p => some p.1.taskId) =
      (itemsOf pairs).map fun p => (p.1, some p.2) := by
    rw [hcommands, List.zip_map', itemsOf, List.map_map]
    rfl
  unfold commit
  simp only [hload, hresolve]
  rw [show TaskGraphExecutor.readyTasks s.tasks draft runtime = offered from rfl, halign]
  simp only [hzip]
  rfl

/-- **Specification of the commit.**  From the store a compile has left behind, the commit is
aligned with the ready tasks of that compile. -/
lemma commit_aligned {rt : XErRuntime α} {s : Stores α} {draft : RoboticsPlanDraft α}
    {targets : List (ResolvedTarget α)} {runtime : RuntimeState} {command : Command}
    (hresolve : VisualResolver.resolve F L rt.visualPolicy rt.calibration draft.detections =
      .ok targets)
    (hload : TaskGraphExecutor.loadState s.tasks draft.planId = .ok runtime)
    (hcommands : command.commands =
      (CommandCompiler.compiledPairs R.repr (CommandCompiler.byTarget targets)
        (TaskGraphExecutor.readyTasks s.tasks draft runtime).1).map Prod.snd)
    (execute : ℕ → Except PyErr Bool) :
    let r := commit F L R rt
      { s with tasks := (TaskGraphExecutor.readyTasks s.tasks draft runtime).2.2 } draft command
      execute
    r.2 ≠ .error .executorError ∧ (∀ outcome, r.2 = .ok outcome → outcome.skippedReason = none) ∧
      Aligned F L R rt s execute r.1 r.2 draft runtime targets
        (CommandCompiler.compiledPairs R.repr (CommandCompiler.byTarget targets)
          (TaskGraphExecutor.readyTasks s.tasks draft runtime).1) := by
  intro r
  set offered := TaskGraphExecutor.readyTasks s.tasks draft runtime with hoffered
  set again := TaskGraphExecutor.readyTasks offered.2.2 draft offered.2.1 with hagain
  set pairs := CommandCompiler.compiledPairs R.repr (CommandCompiler.byTarget targets) offered.1
    with hpairs
  have hreload : TaskGraphExecutor.loadState offered.2.2 draft.planId = .ok offered.2.1 :=
    loadState_readyTasks s.tasks draft runtime
  have hagainLoad : TaskGraphExecutor.loadState again.2.2 draft.planId = .ok again.2.1 :=
    loadState_readyTasks offered.2.2 draft offered.2.1
  -- the second offer is the first one
  have hpairsAgain : pairs = CommandCompiler.compiledPairs R.repr
      (CommandCompiler.byTarget targets) again.1 := by
    rw [hpairs, show again.1 = offered.1 from
      TaskGraphExecutor.readyLoop_twice draft.taskGraph runtime]
  obtain ⟨hnodup, hready⟩ := startable_itemsOf R.repr (CommandCompiler.byTarget targets) draft
    offered.2.2 offered.2.1
  rw [← hagain, ← hpairsAgain] at hnodup hready
  have hspec := dispatchLoop_spec draft.planId (s.curGen + 1) execute 0 (itemsOf pairs) hagainLoad
    hnodup hready
  have haccepted : acceptedOf execute 0 (itemsOf pairs) = itemsOf (acceptedOf execute 0 pairs) :=
    acceptedOf_map execute _ 0 pairs
  have hcalled : calledOf execute 0 (itemsOf pairs) = itemsOf (calledOf execute 0 pairs) :=
    calledOf_map execute _ 0 pairs
  rw [haccepted, hcalled] at hspec
  have hr : r = _ := commit_eq (s := { s with tasks := offered.2.2 }) hresolve hreload hpairsAgain
    hcommands execute
  rw [hr]
  refine ⟨?_, ?_, hresolve, hload, rfl, rfl, ?_, calledOf_prefix _ _ _, ?_, ?_⟩
  · intro herror
    exact hspec.escapes (exceptMap_eq_error.mp herror)
  · intro outcome hok
    obtain ⟨committed, -, rfl⟩ := exceptMap_eq_ok.mp hok
    rfl
  · refine hspec.calls.trans ?_
    rw [itemsOf, List.map_map]
    rfl
  · intro planId t
    refine (hspec.running hagainLoad planId t).trans ?_
    rw [runningUnder_readyTasks hreload, runningUnder_readyTasks hload, itemsOf, List.map_map,
      List.mem_map]
    rfl
  · intro outcome hok
    obtain ⟨committed, hcommitted, rfl⟩ := exceptMap_eq_ok.mp hok
    refine ⟨hcommands, ?_⟩
    rw [hspec.committed committed hcommitted, itemsOf, List.map_map]
    rfl

/-- An exit before the dispatch: no generation is published, no tool is called, no task is started,
and an outcome is a skip with an empty command. -/
structure ExitsEarly (s : Stores α) (r : Effects α × Except Escape XErCycleOutcome) : Prop where
  gen : r.1.stores.gen = s.gen
  calls : r.1.calls = []
  escapes : r.2 ≠ .error .executorError
  skips : ∀ outcome, r.2 = .ok outcome → outcome.skippedReason ≠ none ∧ outcome.committed = [] ∧
    outcome.command.commands = []
  running : ∀ planId t, XErBridge.RunningUnder r.1.stores.tasks planId t ↔
    XErBridge.RunningUnder s.tasks planId t

omit [Field α] [LinearOrder α] [IsStrictOrderedRing α] in
lemma exitsEarly_raised (s : Stores α) (e : PyErr) :
    ExitsEarly s (⟨s, []⟩, .error (.raised e)) :=
  ⟨rfl, rfl, nofun, nofun, fun _ _ => Iff.rfl⟩

omit [Field α] [LinearOrder α] [IsStrictOrderedRing α] in
lemma exitsEarly_skipped (s : Stores α) (reason : XErBridge.SkippedReason) (text : String)
    (planId : Option String) :
    ExitsEarly s (⟨s, []⟩, .ok (skipped reason (emptyCommand text) planId)) := by
  refine ⟨rfl, rfl, nofun, ?_, fun _ _ => Iff.rfl⟩
  intro outcome hok
  obtain rfl := Except.ok.inj hok
  exact ⟨nofun, rfl, rfl⟩

variable (F L R) in
/-- A cycle exits early, or it commits the command of a compile that has just offered the ready
tasks of the plan. -/
lemma runXErCycle_cases (rt : XErRuntime α) (s : Stores α) (c : CycleInput α) :
    ExitsEarly s (runXErCycle F L R rt s c) ∨
    ∃ raw draft runtime targets command, c.proposal = .ok raw ∧
      Handoff.toRoboticsPlanDraft R.scan R.model raw = .ok draft ∧
      VisualResolver.resolve F L rt.visualPolicy rt.calibration draft.detections = .ok targets ∧
      TaskGraphExecutor.loadState s.tasks draft.planId = .ok runtime ∧
      command.commands = (CommandCompiler.compiledPairs R.repr (CommandCompiler.byTarget targets)
        (TaskGraphExecutor.readyTasks s.tasks draft runtime).1).map Prod.snd ∧
      runXErCycle F L R rt s c = commit F L R rt
        { s with tasks := (TaskGraphExecutor.readyTasks s.tasks draft runtime).2.2 } draft command
        c.execute := by
  unfold runXErCycle
  cases c.proposal with
  | error e => exact .inl (exitsEarly_skipped s _ _ _)
  | ok raw =>
    dsimp only
    cases hdraft : Handoff.toRoboticsPlanDraft R.scan R.model raw with
    | error e => exact .inl (exitsEarly_raised s e)
    | ok draft =>
      dsimp only
      cases c.context with
      | error e => exact .inl (exitsEarly_raised s e)
      | ok context =>
        dsimp only
        cases c.gate draft context with
        | error e => exact .inl (exitsEarly_raised s e)
        | ok status =>
          dsimp only
          split_ifs with hstatus
          · exact .inl (exitsEarly_skipped s _ _ _)
          · cases hcompile : Pipeline.compileRawOutput F L R
              ⟨rt.calibration, rt.visualPolicy, some context, .xLite⟩ raw ⟨some s.tasks, none⟩ with
            | mk result injected =>
              have hcases := compileRawOutput_cases hdraft hcompile
              -- whether the compile offered the tasks or not, it started none
              have hrunning : ∀ planId t, XErBridge.RunningUnder injected.current planId t ↔
                  XErBridge.RunningUnder s.tasks planId t := by
                intro planId t
                rcases hcases with ⟨hcurrent, -⟩ | ⟨targets, runtime, -, hload, hcurrent, -⟩
                · rw [hcurrent]
                · rw [hcurrent]
                  exact runningUnder_readyTasks hload planId t
              cases result with
              | error e => exact .inl ⟨rfl, rfl, nofun, nofun, hrunning⟩
              | ok command =>
                dsimp only
                split_ifs with hempty
                · refine .inl ⟨rfl, rfl, nofun, ?_, hrunning⟩
                  intro outcome hok
                  obtain rfl := Except.ok.inj hok
                  exact ⟨nofun, rfl, hempty⟩
                · rcases hcases with
                    ⟨-, hnone⟩ | ⟨targets, runtime, hresolve, hload, hcurrent, hcommands⟩
                  · exact absurd (hnone command rfl) hempty
                  · refine .inr ⟨raw, draft, runtime, targets, command, rfl, hdraft, hresolve, hload,
                      hcommands command rfl, ?_⟩
                    rw [hcurrent]

variable (F L R) in
/-- **Commits are aligned with their tasks.**  Whatever a cycle meets, no illegal transition of the
executor escapes.  An exit that skips the dispatch publishes no generation and calls no tool, and
where no tool was called no task starts.  A cycle that dispatches has compiled the ready tasks of
the accepted plan: its calls are the items of those that compile, in their order; an accepted call
is committed under the task its item was compiled from; and exactly these tasks are started. -/
theorem cycle_commits_aligned (rt : XErRuntime α) (s : Stores α) (c : CycleInput α) :
    let r := runXErCycle F L R rt s c
    r.2 ≠ .error .executorError ∧
    (∀ outcome, r.2 = .ok outcome → outcome.skippedReason ≠ none →
      r.1.stores.gen = s.gen ∧ r.1.calls = [] ∧ outcome.committed = [] ∧
        outcome.command.commands = []) ∧
    (r.1.calls = [] → ∀ planId t,
      XErBridge.RunningUnder r.1.stores.tasks planId t ↔ XErBridge.RunningUnder s.tasks planId t) ∧
    (r.1.calls ≠ [] ∨ (∃ outcome, r.2 = .ok outcome ∧ outcome.skippedReason = none) →
      ∃ raw draft runtime targets pairs, c.proposal = .ok raw ∧
        Handoff.toRoboticsPlanDraft R.scan R.model raw = .ok draft ∧
        Aligned F L R rt s c.execute r.1 r.2 draft runtime targets pairs) := by
  intro r
  rcases runXErCycle_cases F L R rt s c with
    h | ⟨raw, draft, runtime, targets, command, hraw, hdraft, hresolve, hload, hcommands, heq⟩
  · refine ⟨h.escapes, ?_, fun _ => h.running, ?_⟩
    · intro outcome hok _
      exact ⟨h.gen, h.calls, (h.skips outcome hok).2⟩
    · rintro (hcalls | ⟨outcome, hok, hnone⟩)
      · exact absurd h.calls hcalls
      · exact absurd hnone (h.skips outcome hok).1
  · obtain ⟨hescape, hdispatch, haligned⟩ := commit_aligned hresolve hload hcommands c.execute
    rw [← heq] at hescape hdispatch haligned
    refine ⟨hescape, ?_, ?_, ?_⟩
    · intro outcome hok hskip
      exact absurd (hdispatch outcome hok) hskip
    · -- without a call nothing was accepted
      intro hcalls planId t
      have hmade := haligned.calls
      rw [hcalls] at hmade
      have hsub := acceptedOf_sublist c.execute 0 (CommandCompiler.compiledPairs R.repr
        (CommandCompiler.byTarget targets) (TaskGraphExecutor.readyTasks s.tasks draft runtime).1)
      rw [List.map_eq_nil_iff.mp hmade.symm] at hsub
      have haccepted := List.sublist_nil.mp hsub
      have hrunning := haligned.running planId t
      rw [haccepted] at hrunning
      simpa using hrunning
    · intro _
      exact ⟨raw, draft, runtime, targets, _, hraw, hdraft, haligned⟩

end Alignment

/-! ### A task that does not compile -/

/-- A wait before the navigation of the sample plan, in its chat envelope. -/
def waitThenNavigate : List (String × PyVal ℚ) :=
  [("choices", .list [.dict [("message", .dict [("role", .str "assistant"),
    ("content", .dict [("schema_version", .str "robotics_plan_draft.v0"), ("plan_id", .str "p1"),
      ("detections", .list [.dict [("id", .str "red_box"), ("color", .str "red"),
        ("pixel", .list [.int 200, .int 570]), ("confidence", .float (.fin (9 / 10)))]]),
      ("task_graph", .list [
        .dict [("id", .str "t0"), ("robot", .str "bot1"), ("action", .str "wait")],
        .dict [("id", .str "t1"), ("robot", .str "bot1"), ("action", .str "navigate"),
          ("target", .str "red_box")]])])])]])]

/-- The cycle over it, with every gate open and every call accepted. -/
def waitThenNavigateCycle : Effects ℚ × Except Escape XErCycleOutcome :=
  runXErCycle (.exact ℚ) .rational Pipeline.sampleRuntime
    ⟨(Pipeline.sampleRequest false).calibration, (Pipeline.sampleRequest false).resolverPolicy⟩
    ⟨.empty, none⟩
    { proposal := .ok waitThenNavigate
      context := .ok (Pipeline.sampleRequest false).ctx
      gate := fun _ _ => .ok .accepted
      execute := fun _ => .ok true }

/-- The item is committed under the second task, the one it was compiled from. -/
theorem cycle_commits_aligned_wait_then_navigate :
    waitThenNavigateCycle.2.toOption.map (·.committed) = some [("bot1", "t1")] ∧
      waitThenNavigateCycle.1.stores.gen = some 1 ∧
      waitThenNavigateCycle.2 ≠ .error .executorError :=
  ⟨by decide +kernel, by decide +kernel, (cycle_commits_aligned _ _ _ _ _ _).1⟩

end XErCycle

end MiniatureWarehouse
