import MiniatureWarehouse.Planning.CommandCompiler
import MiniatureWarehouse.Planning.Handoff
import MiniatureWarehouse.Planning.Validator
import Mathlib.Algebra.Order.Field.Rat

/-!
# From a raw planner output to a command

The pipeline chains the stages of the planning core: the handoff, the validator, and, for an
accepted plan only, the visual resolver, the task graph executor and the compiler.  The store of
the task graphs is injected, either inside an executor or on its own; without an injection a fresh
one is used and dropped.

What has to hold is that nothing is dispatched without every stage agreeing.  `Dispatched` says
what stands behind one item of a command: the accepted plan, the ready node, and one and the same
detection behind the confidence check and the resolved place.
-/

namespace MiniatureWarehouse

namespace Pipeline

/-- The two optional injections: an executor, seen as the store it owns, and a store. -/
structure Injected (α : Type*) where
  executor : Option (TaskGraphStore α)
  store : Option (TaskGraphStore α)

/-- The store the task executor works on. -/
def Injected.current {α : Type*} (i : Injected α) : TaskGraphStore α :=
  match i.executor with
  | some store => store
  | none => i.store.getD .empty

/-- The injections after the executor has persisted a state. -/
def Injected.write {α : Type*} (i : Injected α) (store : TaskGraphStore α) : Injected α :=
  match i.executor with
  | some _ => { i with executor := some store }
  | none => { i with store := i.store.map fun _ => store }

/-- Both injections at once are ambiguous. -/
def Injected.ambiguous {α : Type*} (i : Injected α) : Bool := i.executor.isSome && i.store.isSome

/-- What the core uses of its surroundings: the JSON decoder, the data-model library, and the
quoting of texts. -/
structure Runtime (α : Type*) where
  scan : JsonScan α
  model : DraftModel α
  repr : String → String

/-- The arguments of `compile_raw_output`, the raw output and the injections apart. -/
structure Request (α : Type*) where
  calibration : Calibration α
  resolverPolicy : VisualPolicy α
  context : Option (PlanningContext α)
  profile : ExecutionProfile

/-- The context of the cycle, by default the reference policy with a clean runtime state. -/
def Request.ctx {α : Type*} (r : Request α) : PlanningContext α := r.context.getD {}

section Compile

variable {α : Type*} [Field α] [LinearOrder α] [IsStrictOrderedRing α] (F : FloatFormat α)
  (L : MathLib α) (R : Runtime α)

/-- The stages after the validator, for an accepted plan. -/
def dispatchPlan (req : Request α) (draft : RoboticsPlanDraft α) (injected : Injected α) :
    Except PyErr Command × Injected α :=
  match VisualResolver.resolve F L req.resolverPolicy req.calibration draft.detections with
  | .error e => (.error e, injected)
  | .ok targets =>
    match TaskGraphExecutor.loadState injected.current draft.planId with
    | .error e => (.error e, injected)
    | .ok runtime =>
      let (ready, _, store) := TaskGraphExecutor.readyTasks injected.current draft runtime
      (CommandCompiler.compile R.repr ready targets req.profile, injected.write store)

/-- The command for a plan that is not dispatched. -/
def withheld (status : ValidationStatus) : Command :=
  ⟨"Mode X-ER: plan not dispatched (validation status=" ++ status.value ++ ")", [], none⟩

/-- `compile_raw_output`, with the default compiler. -/
def compileRawOutput (req : Request α) (payload : List (String × PyVal α))
    (injected : Injected α) : Except PyErr Command × Injected α :=
  if injected.ambiguous then (.error .valueError, injected)
  else
    match Handoff.toRoboticsPlanDraft R.scan R.model payload with
    | .error e => (.error e, injected)
    | .ok draft =>
      match PlanValidator.validate R.model R.repr (PlanFormat.dumpDraft draft) req.ctx with
      | .error e => (.error e, injected)
      | .ok report =>
        if report.permitsDispatch then dispatchPlan F L R req draft injected
        else (.ok (withheld report.status), injected)

/-! ## What stands behind an item -/

/-- The reasons an item of a command is dispatched for. -/
structure Dispatched (req : Request α) (injected : Injected α) (draft : RoboticsPlanDraft α)
    (item : CommandItem) : Prop where
  /-- It is a navigation of a known robot to a known location. -/
  navigate : item.action = .navigate
  robot_known : item.bot ∈ req.ctx.policy.knownRobots
  destination_known : ∃ d, item.destination = some d ∧ isKnownLocation d = true
  /-- The plan was accepted, so there is no emergency, no stale state and no pending
  clarification. -/
  accepted : ∃ report,
    PlanValidator.validate R.model R.repr (PlanFormat.dumpDraft draft) req.ctx = .ok report ∧
    report.status = .accepted
  no_emergency : req.ctx.runtime.emergencyActive = false
  fresh : ∀ maxAge, req.ctx.policy.maxStateAge = some maxAge →
    ∃ age, req.ctx.runtime.stateAge = some age ∧ age ≤ maxAge
  no_clarification : draft.operatorClarificationRequired = false
  /-- It comes from a ready task, and one detection is behind its check and its place. -/
  origin : ∃ runtime node target detection resolved,
    TaskGraphExecutor.loadState injected.current draft.planId = .ok runtime ∧
    node ∈ draft.taskGraph ∧ TaskGraphExecutor.IsReady runtime node ∧
    ReadyTask.fromNode node ∈
      (TaskGraphExecutor.readyTasks injected.current draft runtime).1 ∧
    node.robot = item.bot ∧ node.target = some target ∧
    (PlanValidator.detectionsById draft.detections).get? target = some detection ∧
    (∀ threshold, req.ctx.policy.minDetectionConfidence = some threshold →
      PlanValidator.meetsThreshold threshold detection = true) ∧
    VisualResolver.resolveOne F L req.resolverPolicy req.calibration detection = .ok resolved ∧
    resolved.resolution = .knownLocation ∧ resolved.destination = item.destination

variable {F L R}

/-- The target an item was resolved to is that of the detection the validator looked up. -/
theorem resolved_detection {req : Request α} {draft : RoboticsPlanDraft α}
    {targets : List (ResolvedTarget α)} {targetId : String} {resolved : ResolvedTarget α}
    (hresolve : VisualResolver.resolve F L req.resolverPolicy req.calibration draft.detections =
      .ok targets)
    (hget : (CommandCompiler.byTarget targets).get? targetId = some resolved) :
    ∃ detection, (PlanValidator.detectionsById draft.detections).get? targetId = some detection ∧
      VisualResolver.resolveOne F L req.resolverPolicy req.calibration detection =
        .ok resolved := by
  apply Dict.get?_indexBy_of_forall₂ _ (VisualResolver.forall₂_of_resolve hresolve) hget
  intro detection target hone
  exact (VisualResolver.resolveOne_targetId hone).symm

/-- The stages after an accepted report justify every item. -/
theorem dispatchPlan_dispatched {req : Request α} {draft : RoboticsPlanDraft α}
    {injected injected' : Injected α} {report : ValidationReport α} {command : Command}
    (hreport : PlanValidator.validate R.model R.repr (PlanFormat.dumpDraft draft) req.ctx =
      .ok report)
    (haccepted : report.status = .accepted)
    (h : dispatchPlan F L R req draft injected = (.ok command, injected')) :
    ∀ item ∈ command.commands, Dispatched F L R req injected draft item := by
  intro item hitem
  have hplan := (PlanValidator.validate_accepted (R.model.validate_dump draft) hreport).mp haccepted
  unfold dispatchPlan at h
  cases hresolve : VisualResolver.resolve F L req.resolverPolicy req.calibration
      draft.detections with
  | error e => simp [hresolve] at h
  | ok targets =>
    cases hload : TaskGraphExecutor.loadState injected.current draft.planId with
    | error e => simp [hresolve, hload] at h
    | ok runtime =>
      simp only [hresolve, hload, Prod.mk.injEq] at h
      obtain ⟨task, htask, hone⟩ := CommandCompiler.mem_compile h.1 hitem
      obtain ⟨node, hnode, rfl, hready⟩ := TaskGraphExecutor.mem_readyLoop htask
      obtain ⟨hbot, haction, -, target, resolved, destination, htarget, hget, hres, hdest,
        hitemDest⟩ := CommandCompiler.compileOne_eq_ok hone
      obtain ⟨detection, hdetection, hresolved⟩ := resolved_detection hresolve hget
      have hchecked := hplan.nodes node hnode
      refine ⟨haction, ?_, ⟨destination, hitemDest, item.destination_known destination hitemDest⟩,
        ⟨report, hreport, haccepted⟩, hplan.no_emergency, hplan.fresh, hplan.no_clarification,
        runtime, node, target, detection, resolved, hload, hnode, hready, htask, hbot.symm, htarget,
        hdetection, ?_, hresolved, hres, hdest.trans hitemDest.symm⟩
      · rw [hbot]
        exact hchecked.robot
      · intro threshold hthreshold
        exact hchecked.confident threshold target detection hthreshold htarget hdetection

/-- **Zero dispatch.**  Whenever the validator does not accept the plan, the command is empty and
the injected store is untouched; and behind every item of a command there is an accepted plan, a
ready task, and a target resolved with the very detection whose confidence was checked. -/
theorem compileRawOutput_safe (req : Request α) (payload : List (String × PyVal α))
    (injected : Injected α) :
    (∀ draft report, injected.ambiguous = false →
      Handoff.toRoboticsPlanDraft R.scan R.model payload = .ok draft →
      PlanValidator.validate R.model R.repr (PlanFormat.dumpDraft draft) req.ctx = .ok report →
      report.status ≠ .accepted →
      compileRawOutput F L R req payload injected = (.ok (withheld report.status), injected) ∧
        (withheld report.status).commands = []) ∧
    (∀ command injected',
      compileRawOutput F L R req payload injected = (.ok command, injected') →
      ∀ item ∈ command.commands, ∃ draft,
        Handoff.toRoboticsPlanDraft R.scan R.model payload = .ok draft ∧
        Dispatched F L R req injected draft item) := by
  constructor
  · intro draft report hone hdraft hreport hstatus
    refine ⟨?_, rfl⟩
    have hpermits : report.permitsDispatch = false := by
      simp [ValidationReport.permitsDispatch, hstatus]
    simp [compileRawOutput, hone, hdraft, hreport, hpermits]
  · intro command injected' h item hitem
    unfold compileRawOutput at h
    split_ifs at h with hboth
    · cases h
    · cases hdraft : Handoff.toRoboticsPlanDraft R.scan R.model payload with
      | error e => simp [hdraft] at h
      | ok draft =>
        cases hreport : PlanValidator.validate R.model R.repr (PlanFormat.dumpDraft draft)
            req.ctx with
        | error e => simp [hdraft, hreport] at h
        | ok report =>
          simp only [hdraft, hreport] at h
          split_ifs at h with hpermits
          · have haccepted : report.status = .accepted := by
              simpa [ValidationReport.permitsDispatch] using hpermits
            exact ⟨draft, rfl, dispatchPlan_dispatched hreport haccepted h item hitem⟩
          · obtain rfl : withheld report.status = command := by
              simpa using congrArg Prod.fst h
            cases hitem

end Compile

/-! ## One plan, with and without an emergency -/

section Sample

/-- A plan of one navigation. -/
def planValue : PyVal ℚ :=
  .dict [("schema_version", .str "robotics_plan_draft.v0"), ("plan_id", .str "p1"),
    ("detections", .list [.dict [("id", .str "red_box"), ("color", .str "red"),
      ("pixel", .list [.int 200, .int 570]), ("confidence", .float (.fin (9 / 10)))]]),
    ("task_graph", .list [.dict [("id", .str "t1"), ("robot", .str "bot1"),
      ("action", .str "navigate"), ("target", .str "red_box")]])]

/-- The chat envelope around the plan, whose content arrives decoded. -/
def envelope : List (String × PyVal ℚ) :=
  [("choices", .list [.dict [("message",
    .dict [("role", .str "assistant"), ("content", planValue)])]])]

/-- No text is decoded here, and drafts are read strictly. -/
def sampleRuntime : Runtime ℚ where
  scan _ := .error .valueError
  model := .strict ℚ
  repr s := "'" ++ s ++ "'"

/-- A camera that sees a millimetre in each pixel, two shelves, a confidence threshold and a
freshness window. -/
def sampleRequest (emergency : Bool) : Request ℚ where
  calibration :=
    { homography := [[.fin (1 / 1000), .fin 0, .fin 0], [.fin 0, .fin (1 / 1000), .fin 0],
        [.fin 0, .fin 0, .fin 1]]
      validPolygon := [[.fin 0, .fin 0], [.fin (9 / 5), .fin 0], [.fin (9 / 5), .fin (9 / 10)],
        [.fin 0, .fin (9 / 10)]] }
  resolverPolicy :=
    { locationCoords :=
        ⟨[("shelf_1", .fin (1 / 5), .fin (57 / 100)), ("shelf_2", .fin (7 / 10), .fin (57 / 100))],
          by decide⟩
      snapRadius := .fin (1 / 4)
      maxReprojectionError := .fin 5
      composeConfidence := (FloatFormat.exact ℚ).mul }
  context := some
    { policy := { minDetectionConfidence := some (.fin (3 / 5)), maxStateAge := some (.fin (1 / 2)) }
      runtime := { emergencyActive := emergency, stateAge := some (.fin (1 / 5)) } }
  profile := .xLite

/-- The result for the sample plan and an empty store. -/
def sampleOutcome (emergency : Bool) : Except PyErr Command × Injected ℚ :=
  compileRawOutput (FloatFormat.exact ℚ) .rational sampleRuntime (sampleRequest emergency) envelope
    ⟨none, some .empty⟩

/-- The items of a command, each by its robot and its destination. -/
def itemsOf (result : Except PyErr Command) : Option (List (String × Option String)) :=
  match result with
  | .ok command => some (command.commands.map fun item => (item.bot, item.destination))
  | .error _ => none

/-- The draft of the sample plan. -/
def sampleDraft : RoboticsPlanDraft ℚ where
  planId := "p1"
  detections := [⟨"red_box", some "red", [200, 570], some (.fin (9 / 10))⟩]
  taskGraph := [⟨"t1", "bot1", "navigate", some "red_box", none⟩]

/-- Without an emergency the plan sends one robot to the first shelf, and the item is justified;
with one the command is empty and the store as it was. -/
theorem compileRawOutput_safe_sample :
    (∃ command injected', sampleOutcome false = (.ok command, injected') ∧
      command.commands.map (fun item => (item.bot, item.destination)) =
        [("bot1", some "shelf_1")] ∧
      ∀ item ∈ command.commands, ∃ draft,
        Handoff.toRoboticsPlanDraft sampleRuntime.scan sampleRuntime.model envelope = .ok draft ∧
        Dispatched (FloatFormat.exact ℚ) .rational sampleRuntime (sampleRequest false)
          ⟨none, some .empty⟩ draft item) ∧
    ∃ status, status ≠ .accepted ∧
      sampleOutcome true = (.ok (withheld status), ⟨none, some .empty⟩) := by
  constructor
  · have hitems : itemsOf (sampleOutcome false).1 = some [("bot1", some "shelf_1")] := by
      decide +kernel
    cases hout : sampleOutcome false with
    | mk result injected' =>
      rw [hout] at hitems
      cases result with
      | error e => cases hitems
      | ok command =>
        exact ⟨command, injected', rfl, Option.some.inj hitems,
          (compileRawOutput_safe _ _ _).2 command injected' hout⟩
  · have hdraft : Handoff.toRoboticsPlanDraft sampleRuntime.scan sampleRuntime.model envelope =
        .ok sampleDraft := by decide +kernel
    have hreport : PlanValidator.validate sampleRuntime.model sampleRuntime.repr
        (PlanFormat.dumpDraft sampleDraft) (sampleRequest true).ctx =
        .ok (.fromRules (PlanValidator.findings sampleRuntime.repr sampleDraft
          (sampleRequest true).ctx) (PlanFormat.dumpDraft sampleDraft)) := by
      rw [PlanValidator.validate, sampleRuntime.model.validate_dump]
    have hstatus : aggregateStatus (PlanValidator.findings sampleRuntime.repr sampleDraft
        (sampleRequest true).ctx) ≠ .accepted := by decide +kernel
    exact ⟨_, hstatus,
      ((compileRawOutput_safe _ _ _).1 sampleDraft _ rfl hdraft hreport hstatus).1⟩

end Sample

end Pipeline

end MiniatureWarehouse
