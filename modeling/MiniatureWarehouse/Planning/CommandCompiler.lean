import MiniatureWarehouse.Planning.VisualResolver

/-!
# The command compiler

The last stage of the planning core turns ready tasks into items of a command.  Only a navigate
task whose target was snapped to a known location becomes one; every other task is skipped, with
its reason recorded.
-/

namespace MiniatureWarehouse

/-- `CommandAction`. -/
inductive CommandAction
  | navigate
  | wait
  | stop
  | yield
  | charge
  deriving DecidableEq, Repr

/-- `CommandItem`, with the check of its validator as a field: a destination is a known
location. -/
structure CommandItem where
  bot : String
  action : CommandAction
  destination : Option String
  destination_known : ∀ d, destination = some d → isKnownLocation d = true

/-- `Command`. -/
structure Command where
  reasoning : String
  commands : List CommandItem
  priorityExplanation : Option String

/-- `ExecutionProfile`. -/
inductive ExecutionProfile
  | xLite
  | xRmf
  deriving DecidableEq, Repr

/-- `SkippedTask`. -/
structure SkippedTask where
  taskId : String
  reason : String
  deriving DecidableEq, Repr

/-- `CompilationResult`. -/
structure CompilationResult where
  command : Command
  compiled : List String
  skipped : List SkippedTask

namespace CommandCompiler

variable {α : Type*} (repr : String → String)

/-- The item of a task that goes to a known location. -/
def navigateItem (robot destination : String) (h : isKnownLocation destination = true) :
    CommandItem :=
  ⟨robot, .navigate, some destination, fun _ hd => Option.some.inj hd ▸ h⟩

/-- `_compile_one`: an item, or the reason there is none. -/
def compileOne (task : ReadyTask) (byTarget : Dict String (ResolvedTarget α)) :
    Except String CommandItem :=
  if task.action ≠ "navigate" then
    .error ("action " ++ repr task.action ++ " not compiled in x_lite MVP (doc02:232)")
  else if task.robot = "" then .error "task has no robot"
  else
    match task.target with
    | none | some "" => .error "navigate task has no visual target"
    | some targetId =>
      match byTarget.get? targetId with
      | none => .error ("target " ++ repr targetId ++ " absent from ResolutionResult")
      | some resolved =>
        match resolved.resolution, resolved.destination with
        | .knownLocation, some destination =>
          if h : isKnownLocation destination = true then
            .ok (navigateItem task.robot destination h)
          else .error ("destination " ++ repr destination ++ " not in KNOWN_LOCATIONS")
        | _, _ => .error ("target " ++ repr targetId ++ " unresolved (0-dispatch, doc02:231,68)")

/-- `_reasoning`. -/
def reasoning (compiled : List String) (skipped : List SkippedTask) : String :=
  "Mode X-ER x_lite compile: " ++ toString compiled.length ++ " navigate command(s)" ++
    (if compiled = [] then "" else " from tasks [" ++ ", ".intercalate compiled ++ "]") ++
    (if skipped = [] then ""
      else "; skipped [" ++ ", ".intercalate (skipped.map SkippedTask.taskId) ++ "]")

/-- `_priority`. -/
def priority (compiled : List String) : Option String :=
  if compiled = [] then none else some "visual targets resolved to known locations"

/-- The loop over the tasks: the items, the ids they come from, and the skipped tasks. -/
def compileLoop (byTarget : Dict String (ResolvedTarget α)) :
    List ReadyTask → List CommandItem × List String × List SkippedTask
  | [] => ([], [], [])
  | task :: tasks =>
    let (items, compiled, skipped) := compileLoop byTarget tasks
    match compileOne repr task byTarget with
    | .ok item => (item :: items, task.taskId :: compiled, skipped)
    | .error reason => (items, compiled, ⟨task.taskId, reason⟩ :: skipped)

/-- `{t.target_id: t for t in targets}`. -/
def byTarget (targets : List (ResolvedTarget α)) : Dict String (ResolvedTarget α) :=
  Dict.indexBy ResolvedTarget.targetId targets

/-- `compile_with_audit` of the X-lite compiler. -/
def compileWithAudit (tasks : List ReadyTask) (targets : List (ResolvedTarget α))
    (profile : ExecutionProfile) : Except PyErr CompilationResult :=
  if profile ≠ .xLite then .error .notImplementedError
  else
    let (items, compiled, skipped) := compileLoop repr (byTarget targets) tasks
    .ok ⟨⟨reasoning compiled skipped, items, priority compiled⟩, compiled, skipped⟩

/-- `compile`. -/
def compile (tasks : List ReadyTask) (targets : List (ResolvedTarget α))
    (profile : ExecutionProfile) : Except PyErr Command :=
  (compileWithAudit repr tasks targets profile).map CompilationResult.command

variable {repr}

/-- **Specification of `_compile_one`.**  An item goes where the target of its task was resolved
to. -/
theorem compileOne_eq_ok {task : ReadyTask} {targets : Dict String (ResolvedTarget α)}
    {item : CommandItem} (h : compileOne repr task targets = .ok item) :
    item.bot = task.robot ∧ item.action = .navigate ∧ task.action = "navigate" ∧
      ∃ targetId resolved destination, task.target = some targetId ∧
        targets.get? targetId = some resolved ∧ resolved.resolution = .knownLocation ∧
        resolved.destination = some destination ∧ item.destination = some destination := by
  unfold compileOne at h
  split_ifs at h with haction hrobot
  have haction : task.action = "navigate" := not_not.mp haction
  split at h
  · cases h
  · cases h
  · rename_i targetId hne htarget
    split at h
    · cases h
    · rename_i resolved hget
      split at h
      · rename_i destination hres hdest
        split_ifs at h with hknown
        obtain rfl : navigateItem task.robot destination hknown = item := Except.ok.inj h
        exact ⟨rfl, rfl, haction, targetId, resolved, destination, htarget, hget, hres, hdest,
          rfl⟩
      · cases h

/-- Every item of a compiled command comes from one of the tasks. -/
theorem mem_compileLoop {targets : Dict String (ResolvedTarget α)} {tasks : List ReadyTask}
    {item : CommandItem} (h : item ∈ (compileLoop repr targets tasks).1) :
    ∃ task ∈ tasks, compileOne repr task targets = .ok item := by
  induction tasks with
  | nil => cases h
  | cons task tasks ih =>
    have hrest : item ∈ (compileLoop repr targets tasks).1 →
        ∃ t ∈ task :: tasks, compileOne repr t targets = .ok item := by
      intro hmem
      obtain ⟨t, ht, hok⟩ := ih hmem
      exact ⟨t, List.mem_cons_of_mem _ ht, hok⟩
    unfold compileLoop at h
    cases hone : compileOne repr task targets with
    | error reason =>
      rw [hone] at h
      exact hrest h
    | ok first =>
      rw [hone] at h
      rcases List.mem_cons.mp h with rfl | hmem
      · exact ⟨task, List.mem_cons_self, hone⟩
      · exact hrest hmem

theorem mem_compile {tasks : List ReadyTask} {targets : List (ResolvedTarget α)}
    {profile : ExecutionProfile} {command : Command}
    (h : compile repr tasks targets profile = .ok command) {item : CommandItem}
    (hitem : item ∈ command.commands) :
    ∃ task ∈ tasks, compileOne repr task (byTarget targets) = .ok item := by
  unfold compile compileWithAudit at h
  split_ifs at h with hprofile
  · cases h
  · obtain rfl := Except.ok.inj h
    exact mem_compileLoop hitem

end CommandCompiler

end MiniatureWarehouse
