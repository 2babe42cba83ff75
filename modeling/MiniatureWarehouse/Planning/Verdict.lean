import MiniatureWarehouse.Planning.Validator
import Mathlib.Order.Bounds.Basic

/-!
# The verdict of a report

The statuses form a chain, and the status of a report is the greatest of what its findings force
and `accepted`.  Every rule of the validator adds its findings and none of them takes one back, so
`validate_verdict` holds for plans with several defects at once: the order in which the findings
were recorded is forgotten, an emergency outranks every other defect, and only an accepted report
hands a plan on.
-/

namespace MiniatureWarehouse

/-! ## The chain of the statuses -/

lemma ValidationStatus.priority_injective : Function.Injective ValidationStatus.priority := by
  intro s t h
  cases s <;> cases t <;> first | rfl | exact absurd h (by decide)

/-- The order of `_STATUS_PRIORITY`. -/
instance : LinearOrder ValidationStatus :=
  LinearOrder.lift' ValidationStatus.priority ValidationStatus.priority_injective

lemma ValidationStatus.le_iff {s t : ValidationStatus} : s ≤ t ↔ s.priority ≤ t.priority := Iff.rfl

lemma ValidationStatus.le_emergencyStop (s : ValidationStatus) : s ≤ .emergencyStop := by
  rw [ValidationStatus.le_iff]
  cases s <;> decide

/-- What the findings force, and `accepted`, which is forced by none. -/
def forcedVerdicts (rules : List RuleResult) : Set ValidationStatus :=
  insert .accepted {s | ∃ rule ∈ rules, rule.dispatchEffect.toStatus? = some s}

/-- A fold that takes the maximum with what an element may give ends at the greatest of all. -/
lemma isGreatest_foldl {β γ : Type*} [LinearOrder γ] {g : β → Option γ} {step : γ → β → γ}
    (hnone : ∀ a b, g b = none → step a b = a)
    (hsome : ∀ a b c, g b = some c → step a b = max a c) (xs : List β) (a : γ) :
    IsGreatest (insert a {c | ∃ b ∈ xs, g b = some c}) (xs.foldl step a) := by
  induction xs generalizing a with
  | nil =>
    refine ⟨Set.mem_insert a _, ?_⟩
    rintro c (rfl | ⟨b, hb, -⟩)
    · exact le_rfl
    · exact absurd hb List.not_mem_nil
  | cons x xs ih =>
    obtain ⟨hmem, hupper⟩ := ih (step a x)
    have hstart : step a x ≤ xs.foldl step (step a x) := hupper (Set.mem_insert _ _)
    rw [List.foldl_cons]
    have hstep : a ≤ step a x ∧ (∀ c, g x = some c → c ≤ step a x) ∧
        (step a x = a ∨ g x = some (step a x)) := by
      cases hx : g x with
      | none => exact ⟨(hnone a x hx).ge, nofun, .inl (hnone a x hx)⟩
      | some c =>
        rw [hsome a x c hx]
        refine ⟨le_max_left a c, ?_, ?_⟩
        · rintro c' hc'
          rw [← Option.some.inj hc']
          exact le_max_right a c
        · rcases max_choice a c with h | h
          · exact .inl h
          · exact .inr (by rw [h])
    obtain ⟨hle, hforced, hchoice⟩ := hstep
    constructor
    · rcases hmem with h | ⟨b, hb, hg⟩
      · rw [h]
        rcases hchoice with h | h
        · exact .inl h
        · exact .inr ⟨x, List.mem_cons_self, h⟩
      · exact .inr ⟨b, List.mem_cons_of_mem x hb, hg⟩
    · rintro c (rfl | ⟨b, hb, hg⟩)
      · exact hle.trans hstart
      · rcases List.mem_cons.mp hb with rfl | hb
        · exact (hforced c hg).trans hstart
        · exact hupper (.inr ⟨b, hb, hg⟩)

/-- **The status is a maximum.** -/
lemma isGreatest_aggregateStatus (rules : List RuleResult) :
    IsGreatest (forcedVerdicts rules) (aggregateStatus rules) := by
  refine isGreatest_foldl (g := fun rule => rule.dispatchEffect.toStatus?) ?_ ?_ rules .accepted
  · intro status rule h
    simp only [escalate, h]
  · intro status rule forced h
    simp only [escalate, h]
    by_cases hlt : status.priority < forced.priority
    · rw [if_pos hlt]
      exact (max_eq_right (ValidationStatus.le_iff.mpr hlt.le)).symm
    · rw [if_neg hlt]
      exact (max_eq_left (ValidationStatus.le_iff.mpr (not_lt.mp hlt))).symm

lemma forcedVerdicts_perm {rules recorded : List RuleResult} (h : recorded.Perm rules) :
    forcedVerdicts recorded = forcedVerdicts rules := by
  unfold forcedVerdicts
  simp only [h.mem_iff]

/-- The order of the findings does not matter. -/
lemma aggregateStatus_perm {rules recorded : List RuleResult} (h : recorded.Perm rules) :
    aggregateStatus recorded = aggregateStatus rules := by
  have hrecorded := isGreatest_aggregateStatus recorded
  rw [forcedVerdicts_perm h] at hrecorded
  exact hrecorded.unique (isGreatest_aggregateStatus rules)

/-! ## The report -/

/-- `command_candidates`. -/
def ValidationReport.commandCandidates {α : Type*} (r : ValidationReport α) : List (PyVal α) :=
  if r.permitsDispatch then
    match Dict.find r.normalizedPlan "task_graph" with
    | some (.list candidates) => candidates
    | _ => []
  else []

namespace PlanValidator

variable {α : Type*} [LinearOrder α]

/-- What the verdict of a report on a plan is. -/
structure Verdict (repr : String → String) (draft : RoboticsPlanDraft α) (ctx : PlanningContext α)
    (report : ValidationReport α) : Prop where
  /-- The report holds the findings, each once. -/
  complete : (report.errors ++ report.warnings).Perm (findings repr draft ctx)
  /-- The status is the greatest of what they force. -/
  greatest : IsGreatest (forcedVerdicts (findings repr draft ctx)) report.status
  /-- It would be the same, had they been recorded in another order. -/
  unordered : ∀ recorded plan, recorded.Perm (findings repr draft ctx) →
    (ValidationReport.fromRules recorded plan : ValidationReport α).status = report.status
  accepted : report.status = .accepted → report.normalizedPlan = PlanFormat.dumpDraft draft
  /-- Without acceptance nothing is handed on. -/
  withheld : report.status ≠ .accepted →
    report.normalizedPlan = [] ∧ report.commandCandidates = []
  emergency : ctx.runtime.emergencyActive = true → report.status = .emergencyStop

/-- **The verdict of the validator.**  The report on a plan that parses is the verdict on it. -/
theorem validate_verdict {model : DraftModel α} {repr : String → String}
    {raw : List (String × PyVal α)} {draft : RoboticsPlanDraft α} {ctx : PlanningContext α}
    (hdraft : model.validate raw = some draft) :
    ∃ report, validate model repr raw ctx = .ok report ∧ Verdict repr draft ctx report := by
  refine ⟨.fromRules (findings repr draft ctx) (PlanFormat.dumpDraft draft), ?_, ?_⟩
  · unfold validate
    rw [hdraft]
  have hgreatest := isGreatest_aggregateStatus (findings repr draft ctx)
  constructor
  · have hwarnings : ((findings repr draft ctx).filter fun r => r.dispatchEffect = .none) =
        (findings repr draft ctx).filter fun r => !(decide (r.dispatchEffect ≠ .none)) := by
      refine List.filter_congr fun r _ => ?_
      simp
    unfold ValidationReport.fromRules
    dsimp only
    rw [hwarnings]
    exact List.filter_append_perm _ _
  · exact hgreatest
  · exact fun recorded _ hperm => aggregateStatus_perm hperm
  · exact fun hstatus => if_pos hstatus
  · intro hstatus
    refine ⟨if_neg hstatus, ?_⟩
    unfold ValidationReport.commandCandidates ValidationReport.permitsDispatch
    rw [if_neg (by simpa using hstatus)]
  · intro hactive
    have hfinding : ∃ rule ∈ findings repr draft ctx,
        rule.dispatchEffect.toStatus? = some .emergencyStop := by
      refine ⟨finding .emergencyActive "context.runtime.emergency_active"
        "Emergency stop is active; no new motion command is dispatched." .emergencyStop, ?_, rfl⟩
      unfold findings checkEmergency findingUnless
      rw [hactive]
      simp
    exact (ValidationStatus.le_emergencyStop _).antisymm (hgreatest.2 (.inr hfinding))

/-- A plan with several defects: an unknown robot, a task that waits for itself, and a question to
the operator. -/
def tangled : RoboticsPlanDraft ℚ where
  planId := "p1"
  taskGraph := [{ id := "a", robot := "bot9", action := "wait", after := some "a.completed" }]
  operatorClarificationRequired := true

theorem validate_verdict_tangled :
    ∃ report, validate (.strict ℚ) id (PlanFormat.dumpDraft tangled)
        { runtime := { emergencyActive := true } } = .ok report ∧
      Verdict id tangled { runtime := { emergencyActive := true } } report :=
  validate_verdict ((DraftModel.strict ℚ).validate_dump tangled)

end PlanValidator

end MiniatureWarehouse
