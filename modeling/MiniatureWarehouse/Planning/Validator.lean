import MiniatureWarehouse.Interfaces.Locations
import MiniatureWarehouse.Planning.PlanFormat

/-!
# The plan validator

The semantic gate of the planning core.  It runs every rule over the whole plan, collects the
findings, and aggregates their effects into one status: the most severe effect wins, and only a
plan without any blocking finding is accepted.  A plan that is not accepted carries no forward
plan.

The verdict is a function of the plan, the policy and the runtime state of the cycle.  `repr` is
the language's own quoting of a text, which the messages for the operator use.
-/

namespace MiniatureWarehouse

/-! ## The vocabulary of the report -/

/-- `ValidationStatus`. -/
inductive ValidationStatus
  | accepted
  | rejected
  | needsClarification
  | emergencyStop
  deriving DecidableEq, Repr

/-- The spelling of a status. -/
def ValidationStatus.value : ValidationStatus → String
  | accepted => "accepted"
  | rejected => "rejected"
  | needsClarification => "needs_clarification"
  | emergencyStop => "emergency_stop"

/-- `_STATUS_PRIORITY`. -/
def ValidationStatus.priority : ValidationStatus → ℕ
  | accepted => 0
  | needsClarification => 1
  | rejected => 2
  | emergencyStop => 3

/-- `Severity`. -/
inductive Severity
  | error
  | warning
  deriving DecidableEq, Repr

/-- `DispatchEffect`. -/
inductive DispatchEffect
  | block
  | needsClarification
  | emergencyStop
  | none
  deriving DecidableEq, Repr

/-- `_EFFECT_TO_STATUS`: an effect of `none` forces no status. -/
def DispatchEffect.toStatus? : DispatchEffect → Option ValidationStatus
  | emergencyStop => some .emergencyStop
  | block => some .rejected
  | needsClarification => some .needsClarification
  | none => Option.none

/-- `ValidationCode`. -/
inductive ValidationCode
  | unknownRobot
  | unknownAction
  | unknownTarget
  | lowConfidenceTarget
  | invalidAfterReference
  | taskGraphCycle
  | cycleStateStale
  | emergencyActive
  | operatorClarificationRequested
  deriving DecidableEq, Repr

/-- `RuleResult`: one finding. -/
structure RuleResult where
  code : ValidationCode
  severity : Severity
  fieldPath : String
  messageForOperator : String
  dispatchEffect : DispatchEffect
  deriving DecidableEq, Repr

/-- One round of `_aggregate_status`: a finding raises the status to what its effect forces. -/
def escalate (status : ValidationStatus) (rule : RuleResult) : ValidationStatus :=
  match rule.dispatchEffect.toStatus? with
  | none => status
  | some forced => if status.priority < forced.priority then forced else status

/-- `_aggregate_status`: the most severe effect. -/
def aggregateStatus (rules : List RuleResult) : ValidationStatus := rules.foldl escalate .accepted

theorem priority_le_escalate (status : ValidationStatus) (rule : RuleResult) :
    status.priority ≤ (escalate status rule).priority := by
  unfold escalate
  cases rule.dispatchEffect.toStatus? with
  | none => exact le_rfl
  | some forced =>
    dsimp only
    split_ifs with hlt
    · exact hlt.le
    · exact le_rfl

theorem forced_le_escalate {status forced : ValidationStatus} {rule : RuleResult}
    (h : rule.dispatchEffect.toStatus? = some forced) :
    forced.priority ≤ (escalate status rule).priority := by
  unfold escalate
  rw [h]
  dsimp only
  split_ifs with hlt
  · exact le_rfl
  · exact not_lt.mp hlt

theorem priority_le_foldl (rules : List RuleResult) (start : ValidationStatus) :
    start.priority ≤ (rules.foldl escalate start).priority := by
  induction rules generalizing start with
  | nil => exact le_rfl
  | cons rule rules ih => exact (priority_le_escalate start rule).trans (ih _)

/-- The aggregated status is at least as severe as what each finding forces. -/
theorem forced_le_aggregateStatus {rules : List RuleResult} {rule : RuleResult}
    (hrule : rule ∈ rules) {forced : ValidationStatus}
    (h : rule.dispatchEffect.toStatus? = some forced) :
    forced.priority ≤ (aggregateStatus rules).priority := by
  obtain ⟨before, after, rfl⟩ := List.append_of_mem hrule
  unfold aggregateStatus
  rw [List.foldl_append, List.foldl_cons]
  exact (forced_le_escalate h).trans (priority_le_foldl after _)

/-- An accepted status leaves no room for a finding with an effect. -/
theorem effect_of_accepted {rules : List RuleResult} (h : aggregateStatus rules = .accepted)
    {rule : RuleResult} (hrule : rule ∈ rules) : rule.dispatchEffect = .none := by
  cases heffect : rule.dispatchEffect with
  | none => rfl
  | _ =>
    have hle := forced_le_aggregateStatus hrule (by rw [heffect]; rfl)
    rw [h] at hle
    exact absurd hle (by decide)

/-- `ValidationReport`. -/
structure ValidationReport (α : Type*) where
  status : ValidationStatus
  errors : List RuleResult
  warnings : List RuleResult
  normalizedPlan : List (String × PyVal α)

/-- `permits_dispatch`. -/
def ValidationReport.permitsDispatch {α : Type*} (r : ValidationReport α) : Bool :=
  r.status = .accepted

/-- `ValidationReport.from_rules`. -/
def ValidationReport.fromRules {α : Type*} (rules : List RuleResult)
    (normalizedPlan : List (String × PyVal α)) : ValidationReport α where
  status := aggregateStatus rules
  errors := rules.filter fun r => r.dispatchEffect ≠ .none
  warnings := rules.filter fun r => r.dispatchEffect = .none
  normalizedPlan := if aggregateStatus rules = .accepted then normalizedPlan else []

/-! ## The policy and the runtime state -/

/-- `PlanPolicy`.  A low confidence may block a plan or ask the operator; no other effect can be
configured. -/
structure PlanPolicy (α : Type*) where
  knownRobots : List String := ["bot1", "bot2"]
  knownLocations : List String := MiniatureWarehouse.knownLocations
  allowedActions : List String := ["navigate", "wait", "stop", "yield", "charge"]
  minDetectionConfidence : Option (PyFloat α) := none
  lowConfidenceEffect : DispatchEffect := .block
  maxStateAge : Option (PyFloat α) := none
  lowConfidence_blocks : lowConfidenceEffect = .block ∨ lowConfidenceEffect = .needsClarification :=
    by decide

/-- `RuntimeSafetyState`. -/
structure RuntimeSafetyState (α : Type*) where
  emergencyActive : Bool := false
  stateAge : Option (PyFloat α) := none

/-- `PlanningContext`. -/
structure PlanningContext (α : Type*) where
  policy : PlanPolicy α := {}
  runtime : RuntimeSafetyState α := {}

/-! ## The cycle check -/

/-- The edges `_check_cycle` collects: for each task the tasks it depends on, without repetition.
Only references to another task of the plan count. -/
def dependencyEdges (nodes : List TaskNode) : Dict String (List String) :=
  let taskIds := nodes.map TaskNode.id
  let deps := nodes.foldl (fun deps node => deps.set node.id []) Dict.empty
  nodes.foldl (fun deps node =>
    match node.after with
    | none => deps
    | some after =>
      let ref := afterRef after
      if ref ∈ taskIds ∧ ref ≠ node.id then
        let refs := deps.getD node.id []
        deps.set node.id (if ref ∈ refs then refs else refs ++ [ref])
      else deps) deps

/-- The nodes that depend on a given one, in the order of the mapping. -/
def dependentsOf (deps : Dict String (List String)) (ref : String) : List String :=
  deps.entries.filterMap fun (node, refs) => if ref ∈ refs then some node else none

/-- One processed node gives each of its dependents one unmet dependency less; those that have
none left join the stack. -/
def releaseDependents : List String → Dict String ℤ → List String → Dict String ℤ × List String
  | [], inDegree, ready => (inDegree, ready)
  | dependent :: rest, inDegree, ready =>
    let degree := inDegree.getD dependent 0 - 1
    releaseDependents rest (inDegree.set dependent degree)
      (if degree = 0 then dependent :: ready else ready)

/-- The loop of `_has_cycle`: how many nodes are processed.  The stack holds the node popped next
at its head. -/
def processed (deps : Dict String (List String)) : ℕ → Dict String ℤ → List String → ℕ
  | 0, _, _ => 0
  | _ + 1, _, [] => 0
  | fuel + 1, inDegree, current :: ready =>
    let (inDegree, ready) := releaseDependents (dependentsOf deps current) inDegree ready
    processed deps fuel inDegree ready + 1

/-- `_has_cycle`: some node is never reached.  Every node joins the stack at most once, so as many
steps as there are nodes suffice. -/
def hasCycle (deps : Dict String (List String)) : Bool :=
  let inDegree := deps.mapValues fun _ refs => (refs.length : ℤ)
  let ready := deps.entries.filterMap fun (node, refs) => if refs.length = 0 then some node else none
  processed deps deps.entries.length inDegree ready.reverse < deps.entries.length

/-- The nodes that still wait for something. -/
def waiting (inDegree : Dict String ℤ) : ℕ := inDegree.entries.countP fun e => decide (0 < e.2)

/-- A dependent joins the stack only when it stops waiting. -/
theorem releaseDependents_measure (dependents : List String) (inDegree : Dict String ℤ)
    (ready : List String) :
    (releaseDependents dependents inDegree ready).2.length +
        waiting (releaseDependents dependents inDegree ready).1 ≤
      ready.length + waiting inDegree := by
  induction dependents generalizing inDegree ready with
  | nil => exact le_rfl
  | cons dependent rest ih =>
    unfold releaseDependents
    refine (ih _ _).trans ?_
    have hcount := Dict.countP_assign (fun n : ℤ => decide (0 < n)) inDegree.entries dependent
      (inDegree.getD dependent 0 - 1)
    have hwaiting : waiting (inDegree.set dependent (inDegree.getD dependent 0 - 1)) =
        (Dict.assign inDegree.entries dependent (inDegree.getD dependent 0 - 1)).countP
          fun e => decide (0 < e.2) := rfl
    have hold : waiting inDegree = inDegree.entries.countP fun e => decide (0 < e.2) := rfl
    rw [hwaiting, hold]
    cases hget : Dict.find inDegree.entries dependent with
    | none =>
      have hdegree : inDegree.getD dependent 0 = 0 := by
        rw [Dict.getD, Dict.get?, hget]
        rfl
      simp [hget, hdegree] at hcount ⊢
      omega
    | some degree =>
      have hdegree : inDegree.getD dependent 0 = degree := by
        rw [Dict.getD, Dict.get?, hget]
        rfl
      rw [hget] at hcount
      rw [hdegree] at hcount ⊢
      by_cases hone : degree = 1
      · simp [hone, Option.filter] at hcount ⊢
        omega
      · have hne : degree - 1 ≠ 0 := by omega
        rw [if_neg hne]
        by_cases hpos : 0 < degree
        · have hpos' : 1 < degree := by omega
          simp [hpos, hpos', Option.filter] at hcount
          omega
        · have hpos' : ¬ 1 < degree := by omega
          simp [hpos, hpos', Option.filter] at hcount
          omega

/-- Steps beyond the number of nodes on the stack or still waiting change nothing. -/
theorem processed_fuel (deps : Dict String (List String)) (extra : ℕ) {fuel : ℕ}
    {inDegree : Dict String ℤ} {ready : List String}
    (h : ready.length + waiting inDegree ≤ fuel) :
    processed deps (fuel + extra) inDegree ready = processed deps fuel inDegree ready := by
  induction fuel generalizing inDegree ready with
  | zero =>
    have hready : ready = [] := List.length_eq_zero_iff.mp (by omega)
    rw [hready]
    cases extra <;> rfl
  | succ fuel ih =>
    cases ready with
    | nil =>
      rw [Nat.succ_add]
      rfl
    | cons current ready =>
      have hmeasure := releaseDependents_measure (dependentsOf deps current) inDegree ready
      rw [List.length_cons] at h
      set released := releaseDependents (dependentsOf deps current) inDegree ready with hreleased
      have hnext : processed deps (fuel + extra) released.1 released.2 =
          processed deps fuel released.1 released.2 := ih (by omega)
      rw [Nat.succ_add]
      simp only [processed]
      rw [hnext]

/-- A node is on the stack at the start or waits for something. -/
lemma length_add_waiting_start (deps : Dict String (List String)) :
    (deps.entries.filterMap fun (node, refs) =>
        if refs.length = 0 then some node else none).reverse.length +
      waiting (deps.mapValues fun _ refs => (refs.length : ℤ)) = deps.entries.length := by
  have hsplit : ∀ es : List (String × List String),
      (es.filterMap fun (node, refs) => if refs.length = 0 then some node else none).length +
        (es.map fun e => (e.1, (e.2.length : ℤ))).countP (fun e => decide (0 < e.2)) =
      es.length := by
    intro es
    induction es with
    | nil => rfl
    | cons e es ih =>
      obtain ⟨node, refs⟩ := e
      cases refs with
      | nil =>
        simp at ih ⊢
        omega
      | cons ref refs =>
        have hpos : (0 : ℤ) < ((refs.length : ℤ) + 1) := by omega
        simp [hpos] at ih ⊢
        omega
  rw [List.length_reverse]
  exact hsplit deps.entries

/-- **Termination of the cycle check.**  The loop of `_has_cycle` has emptied its stack after as
many steps as there are nodes, so no larger bound gives another answer. -/
theorem hasCycle_fuel (deps : Dict String (List String)) (extra : ℕ) :
    let inDegree := deps.mapValues fun _ refs => (refs.length : ℤ)
    let ready := (deps.entries.filterMap fun (node, refs) =>
      if refs.length = 0 then some node else none).reverse
    processed deps (deps.entries.length + extra) inDegree ready =
      processed deps deps.entries.length inDegree ready := by
  intro inDegree ready
  apply processed_fuel
  exact (length_add_waiting_start deps).le

/-! ## The rules -/

namespace PlanValidator

variable {α : Type*}

/-- A finding of severity `error`, which every rule's is. -/
def finding (code : ValidationCode) (fieldPath message : String) (effect : DispatchEffect) :
    RuleResult :=
  ⟨code, .error, fieldPath, message, effect⟩

/-- The findings of a rule that has at most one. -/
def findingUnless (passes : Bool) (rule : RuleResult) : List RuleResult :=
  if passes then [] else [rule]

@[simp] theorem findingUnless_eq_nil {passes : Bool} {rule : RuleResult} :
    findingUnless passes rule = [] ↔ passes = true := by
  cases passes <;> simp [findingUnless]

/-- `_check_emergency`. -/
def checkEmergency (ctx : PlanningContext α) : List RuleResult :=
  findingUnless (!ctx.runtime.emergencyActive)
    (finding .emergencyActive "context.runtime.emergency_active"
      "Emergency stop is active; no new motion command is dispatched." .emergencyStop)

/-- `_check_clarification`. -/
def checkClarification (draft : RoboticsPlanDraft α) : List RuleResult :=
  findingUnless (!draft.operatorClarificationRequired)
    (finding .operatorClarificationRequested "operator_clarification_required"
      "The model asked for operator clarification before acting." .needsClarification)

/-- `_check_robot`. -/
def checkRobot (repr : String → String) (node : TaskNode) (policy : PlanPolicy α)
    (base : String) : List RuleResult :=
  findingUnless (node.robot ∈ policy.knownRobots)
    (finding .unknownRobot (base ++ ".robot") ("Unknown robot " ++ repr node.robot ++ ".") .block)

/-- `_check_action`. -/
def checkAction (repr : String → String) (node : TaskNode) (policy : PlanPolicy α)
    (base : String) : List RuleResult :=
  findingUnless (node.action ∈ policy.allowedActions)
    (finding .unknownAction (base ++ ".action") ("Unknown action " ++ repr node.action ++ ".")
      .block)

/-- `_check_target`: a target is a detection or a known location; no target is nothing to
resolve. -/
def checkTarget (repr : String → String) (node : TaskNode) (detectionIds : List String)
    (policy : PlanPolicy α) (base : String) : List RuleResult :=
  match node.target with
  | none => []
  | some target =>
    findingUnless (target ∈ detectionIds || target ∈ policy.knownLocations)
      (finding .unknownTarget (base ++ ".target")
        ("Target " ++ repr target ++ " is not a detected object or a known location.") .block)

/-- `_check_after_reference`. -/
def checkAfterReference (repr : String → String) (node : TaskNode) (taskIds : List String)
    (base : String) : List RuleResult :=
  match node.after with
  | none => []
  | some after =>
    let ref := afterRef after
    findingUnless (ref ≠ "" && ref ∈ taskIds && ref ≠ node.id)
      (finding .invalidAfterReference (base ++ ".after")
        ("Dependency " ++ repr after ++ " does not reference a known task.") .block)

/-- `_check_cycle`. -/
def checkCycle (draft : RoboticsPlanDraft α) : List RuleResult :=
  findingUnless (!hasCycle (dependencyEdges draft.taskGraph))
    (finding .taskGraphCycle "task_graph"
      "The task graph has a dependency cycle and cannot run." .block)

/-- `{d.id: d for d in draft.detections}`: of several detections with one id the last counts. -/
def detectionsById (detections : List (Detection α)) : Dict String (Detection α) :=
  Dict.indexBy Detection.id detections

section Thresholds

variable [LinearOrder α]

/-- `_check_state_freshness`: a configured window rejects an unknown age as well. -/
def checkStateFreshness (ctx : PlanningContext α) : List RuleResult :=
  match ctx.policy.maxStateAge with
  | none => []
  | some maxAge =>
    findingUnless
      (match ctx.runtime.stateAge with
        | some age => decide (age ≤ maxAge)
        | none => false)
      (finding .cycleStateStale "context.runtime.state_age_s"
        "Cycle state is too old to act on; command withheld." .block)

/-- Does a detection meet a threshold?  One without a confidence does not. -/
def meetsThreshold (threshold : PyFloat α) (detection : Detection α) : Bool :=
  match detection.confidence with
  | some confidence => decide (threshold ≤ confidence)
  | none => false

/-- `_check_confidence`: the detection a target names, if a threshold is configured. -/
def checkConfidence (repr : String → String) (node : TaskNode)
    (detections : Dict String (Detection α)) (policy : PlanPolicy α) (base : String) :
    List RuleResult :=
  match policy.minDetectionConfidence, node.target with
  | some threshold, some target =>
    match detections.get? target with
    | none => []
    | some detection =>
      findingUnless (meetsThreshold threshold detection)
        (finding .lowConfidenceTarget (base ++ ".target")
          ("Target " ++ repr target ++ " confidence is below the required threshold.")
          policy.lowConfidenceEffect)
  | _, _ => []

/-- The rules of one node, in their order. -/
def checkNode (repr : String → String) (draft : RoboticsPlanDraft α) (policy : PlanPolicy α)
    (index : ℕ) (node : TaskNode) : List RuleResult :=
  let base := "task_graph[" ++ toString index ++ "]"
  checkRobot repr node policy base ++ checkAction repr node policy base ++
    checkTarget repr node (draft.detections.map Detection.id) policy base ++
    checkConfidence repr node (detectionsById draft.detections) policy base ++
    checkAfterReference repr node (draft.taskGraph.map TaskNode.id) base

/-- The rules of the nodes from an index on. -/
def checkNodes (repr : String → String) (draft : RoboticsPlanDraft α) (policy : PlanPolicy α) :
    ℕ → List TaskNode → List RuleResult
  | _, [] => []
  | index, node :: nodes =>
    checkNode repr draft policy index node ++ checkNodes repr draft policy (index + 1) nodes

/-- `_check_task_graph`. -/
def checkTaskGraph (repr : String → String) (draft : RoboticsPlanDraft α) (policy : PlanPolicy α) :
    List RuleResult :=
  checkNodes repr draft policy 0 draft.taskGraph ++ checkCycle draft

/-- The findings of `validate`, in the order they are collected. -/
def findings (repr : String → String) (draft : RoboticsPlanDraft α) (ctx : PlanningContext α) :
    List RuleResult :=
  checkEmergency ctx ++ checkStateFreshness ctx ++ checkClarification draft ++
    checkTaskGraph repr draft ctx.policy

/-- `validate`: a plan that does not parse raises a `ValueError`. -/
def validate (model : DraftModel α) (repr : String → String) (raw : List (String × PyVal α))
    (ctx : PlanningContext α) : Except PyErr (ValidationReport α) :=
  match model.validate raw with
  | none => .error .valueError
  | some draft => .ok (.fromRules (findings repr draft ctx) (PlanFormat.dumpDraft draft))

/-! ## What an accepted plan is -/

/-- What the validator requires of the nodes of a plan. -/
structure NodeAccepted (draft : RoboticsPlanDraft α) (policy : PlanPolicy α) (node : TaskNode) :
    Prop where
  robot : node.robot ∈ policy.knownRobots
  action : node.action ∈ policy.allowedActions
  target : ∀ target, node.target = some target →
    target ∈ draft.detections.map Detection.id ∨ target ∈ policy.knownLocations
  confident : ∀ threshold target detection, policy.minDetectionConfidence = some threshold →
    node.target = some target → (detectionsById draft.detections).get? target = some detection →
    meetsThreshold threshold detection = true
  dependency : ∀ after, node.after = some after →
    afterRef after ≠ "" ∧ afterRef after ∈ draft.taskGraph.map TaskNode.id ∧
      afterRef after ≠ node.id

/-- What the validator requires of a plan in its context. -/
structure PlanAccepted (draft : RoboticsPlanDraft α) (ctx : PlanningContext α) : Prop where
  no_emergency : ctx.runtime.emergencyActive = false
  fresh : ∀ maxAge, ctx.policy.maxStateAge = some maxAge →
    ∃ age, ctx.runtime.stateAge = some age ∧ age ≤ maxAge
  no_clarification : draft.operatorClarificationRequired = false
  nodes : ∀ node ∈ draft.taskGraph, NodeAccepted draft ctx.policy node
  acyclic : hasCycle (dependencyEdges draft.taskGraph) = false

variable {repr : String → String} {draft : RoboticsPlanDraft α} {ctx : PlanningContext α}
  {policy : PlanPolicy α} {node : TaskNode}

theorem checkStateFreshness_eq_nil :
    checkStateFreshness ctx = [] ↔ ∀ maxAge, ctx.policy.maxStateAge = some maxAge →
      ∃ age, ctx.runtime.stateAge = some age ∧ age ≤ maxAge := by
  unfold checkStateFreshness
  cases ctx.policy.maxStateAge with
  | none => simp
  | some maxAge => cases ctx.runtime.stateAge <;> simp

theorem checkConfidence_eq_nil {detections : Dict String (Detection α)} {base : String} :
    checkConfidence repr node detections policy base = [] ↔
      ∀ threshold target detection, policy.minDetectionConfidence = some threshold →
        node.target = some target → detections.get? target = some detection →
        meetsThreshold threshold detection = true := by
  unfold checkConfidence
  cases policy.minDetectionConfidence with
  | none => simp
  | some threshold =>
    cases node.target with
    | none => simp
    | some target =>
      cases hget : detections.get? target with
      | none =>
        constructor
        · rintro - t u d ⟨⟩ ⟨⟩ hd
          rw [hget] at hd
          cases hd
        · intro _
          simp only [hget]
      | some detection =>
        constructor
        · rintro h t u d ⟨⟩ ⟨⟩ hd
          simp only [hget, findingUnless_eq_nil] at h
          rw [hget] at hd
          rwa [← Option.some.inj hd]
        · intro h
          simp only [hget, findingUnless_eq_nil]
          exact h threshold target detection rfl rfl hget

omit [LinearOrder α] in
theorem checkTarget_eq_nil {detectionIds : List String} {base : String} :
    checkTarget repr node detectionIds policy base = [] ↔
      ∀ target, node.target = some target →
        target ∈ detectionIds ∨ target ∈ policy.knownLocations := by
  unfold checkTarget
  cases node.target <;> simp

theorem checkAfterReference_eq_nil {taskIds : List String} {base : String} :
    checkAfterReference repr node taskIds base = [] ↔
      ∀ after, node.after = some after →
        afterRef after ≠ "" ∧ afterRef after ∈ taskIds ∧ afterRef after ≠ node.id := by
  unfold checkAfterReference
  cases node.after <;> simp [and_assoc]

/-- A node has no finding exactly when it is acceptable. -/
theorem checkNode_eq_nil {index : ℕ} :
    checkNode repr draft policy index node = [] ↔ NodeAccepted draft policy node := by
  simp only [checkNode, List.append_eq_nil_iff, checkTarget_eq_nil, checkConfidence_eq_nil,
    checkAfterReference_eq_nil, checkRobot, checkAction, findingUnless_eq_nil, decide_eq_true_eq]
  constructor
  · rintro ⟨⟨⟨⟨hrobot, haction⟩, htarget⟩, hconfident⟩, hdependency⟩
    exact ⟨hrobot, haction, htarget, hconfident, hdependency⟩
  · intro h
    exact ⟨⟨⟨⟨h.robot, h.action⟩, h.target⟩, h.confident⟩, h.dependency⟩

theorem checkNodes_eq_nil {index : ℕ} {nodes : List TaskNode} :
    checkNodes repr draft policy index nodes = [] ↔
      ∀ node ∈ nodes, NodeAccepted draft policy node := by
  induction nodes generalizing index with
  | nil => simp [checkNodes]
  | cons node nodes ih =>
    rw [checkNodes, List.append_eq_nil_iff, checkNode_eq_nil, ih, List.forall_mem_cons]

/-- **Specification of the rules.**  A plan has no finding exactly when it is acceptable. -/
theorem findings_eq_nil : findings repr draft ctx = [] ↔ PlanAccepted draft ctx := by
  simp only [findings, List.append_eq_nil_iff, checkTaskGraph, checkNodes_eq_nil,
    checkStateFreshness_eq_nil, checkEmergency, checkClarification, checkCycle,
    findingUnless_eq_nil, Bool.not_eq_true']
  constructor
  · rintro ⟨⟨⟨hemergency, hfresh⟩, hclarification⟩, hnodes, hacyclic⟩
    exact ⟨hemergency, hfresh, hclarification, hnodes, hacyclic⟩
  · intro h
    exact ⟨⟨⟨h.no_emergency, h.fresh⟩, h.no_clarification⟩, h.nodes, h.acyclic⟩

/-! ## The verdict -/

omit [LinearOrder α] in
theorem effect_of_mem_findingUnless {passes : Bool} {code : ValidationCode}
    {path message : String} {effect : DispatchEffect} (heffect : effect ≠ .none)
    {rule : RuleResult} (h : rule ∈ findingUnless passes (finding code path message effect)) :
    rule.dispatchEffect ≠ .none := by
  unfold findingUnless at h
  split_ifs at h
  · cases h
  · rw [List.mem_singleton.mp h]
    exact heffect

/-- Every finding of a node has an effect: it blocks, or it asks for clarification where the
policy says so. -/
theorem effect_of_mem_checkNode {index : ℕ} {rule : RuleResult}
    (h : rule ∈ checkNode repr draft policy index node) : rule.dispatchEffect ≠ .none := by
  have hlow : policy.lowConfidenceEffect ≠ .none := by
    rcases policy.lowConfidence_blocks with heffect | heffect <;> rw [heffect] <;> decide
  have hblock : DispatchEffect.block ≠ .none := by decide
  simp only [checkNode, List.mem_append] at h
  rcases h with (((hrobot | haction) | htarget) | hconfidence) | hafter
  · exact effect_of_mem_findingUnless hblock hrobot
  · exact effect_of_mem_findingUnless hblock haction
  · unfold checkTarget at htarget
    split at htarget
    · cases htarget
    · exact effect_of_mem_findingUnless hblock htarget
  · unfold checkConfidence at hconfidence
    split at hconfidence
    · split at hconfidence
      · cases hconfidence
      · exact effect_of_mem_findingUnless hlow hconfidence
    · cases hconfidence
  · unfold checkAfterReference at hafter
    split at hafter
    · cases hafter
    · exact effect_of_mem_findingUnless hblock hafter

theorem effect_of_mem_checkNodes {index : ℕ} {nodes : List TaskNode} {rule : RuleResult}
    (h : rule ∈ checkNodes repr draft policy index nodes) : rule.dispatchEffect ≠ .none := by
  induction nodes generalizing index with
  | nil => cases h
  | cons node nodes ih =>
    rcases List.mem_append.mp h with hnode | hnodes
    · exact effect_of_mem_checkNode hnode
    · exact ih hnodes

/-- No finding is without effect: the validator has no warnings. -/
theorem effect_of_mem_findings {rule : RuleResult} (h : rule ∈ findings repr draft ctx) :
    rule.dispatchEffect ≠ .none := by
  simp only [findings, checkTaskGraph, List.mem_append] at h
  rcases h with ((hemergency | hfresh) | hclarification) | hnodes | hcycle
  · exact effect_of_mem_findingUnless (by decide) hemergency
  · unfold checkStateFreshness at hfresh
    split at hfresh
    · cases hfresh
    · exact effect_of_mem_findingUnless (by decide) hfresh
  · exact effect_of_mem_findingUnless (by decide) hclarification
  · exact effect_of_mem_checkNodes hnodes
  · exact effect_of_mem_findingUnless (by decide) hcycle

/-- The aggregated status is accepted exactly for an acceptable plan. -/
theorem aggregateStatus_findings :
    aggregateStatus (findings repr draft ctx) = .accepted ↔ PlanAccepted draft ctx := by
  have hnil : findings repr draft ctx = [] ↔ PlanAccepted draft ctx := findings_eq_nil
  rw [← hnil]
  constructor
  · intro hstatus
    rw [List.eq_nil_iff_forall_not_mem]
    intro rule hrule
    exact effect_of_mem_findings hrule (effect_of_accepted hstatus hrule)
  · intro hnil
    rw [hnil]
    rfl

/-- The report on a document that holds a draft is made of the findings on the draft. -/
lemma validate_of_valid {model : DraftModel α} {raw : List (String × PyVal α)}
    (hdraft : model.validate raw = some draft) :
    validate model repr raw ctx =
      .ok (.fromRules (findings repr draft ctx) (PlanFormat.dumpDraft draft)) := by
  unfold validate
  rw [hdraft]

/-- **Specification of `validate`.**  The report on a document that holds a draft says accepted
exactly when the draft is acceptable in its context. -/
theorem validate_accepted {model : DraftModel α} {raw : List (String × PyVal α)}
    {report : ValidationReport α} (hdraft : model.validate raw = some draft)
    (h : validate model repr raw ctx = .ok report) :
    report.status = .accepted ↔ PlanAccepted draft ctx := by
  rw [validate_of_valid hdraft] at h
  rw [← Except.ok.inj h]
  exact aggregateStatus_findings

end Thresholds

end PlanValidator

end MiniatureWarehouse
