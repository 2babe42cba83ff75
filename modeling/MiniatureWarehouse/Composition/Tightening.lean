import MiniatureWarehouse.Composition.Plugins
import MiniatureWarehouse.Planning.Verdict

/-!
# Plugins only tighten

The statuses are ordered by their priority.  The composed status is the greatest of the core status
and of what the admitted findings force, hence it does not depend on the order of the plugins, and a
plugin cannot lower it.  What a plugin cannot justify sends the plan to review, and an emergency
stop needs the core or a plugin of the allowlist.
-/

namespace MiniatureWarehouse

/-! ## The composed status -/

lemma ValidationStatus.accepted_le (st : ValidationStatus) : .accepted ≤ st := by
  cases st <;> decide

/-- An effect forces a status that is not accepted. -/
lemma exists_forced {effect : DispatchEffect} (h : effect ≠ .none) :
    ∃ st, effect.toStatus? = some st ∧ .accepted < st := by
  cases effect with
  | none => exact absurd rfl h
  | _ => exact ⟨_, rfl, by decide⟩

/-- What the findings force. -/
def forcedStatuses (findings : List PluginFinding) : Set ValidationStatus :=
  {st | ∃ f ∈ findings, f.dispatchEffect.toStatus? = some st}

/-- The composed status is the greatest of the core status and of what the findings force. -/
lemma composeReport_isGreatest {α : Type*} (core : ValidationReport α)
    (findings : List PluginFinding) :
    IsGreatest (insert core.status (forcedStatuses findings))
      (composeReport core findings).status := by
  refine isGreatest_foldl (g := fun f => f.dispatchEffect.toStatus?) ?_ ?_ findings core.status
  · intro status f h
    simp only [escalateFinding, h]
  · intro status f forced h
    simp only [escalateFinding, h]
    split_ifs with hlt
    · have hlt' : status < forced := hlt
      exact (max_eq_right hlt'.le).symm
    · have hle : forced ≤ status := not_lt.mp hlt
      exact (max_eq_left hle).symm

/-! ## The ceiling -/

/-- Only a plugin of the allowlist that asked for an emergency stop is left with one. -/
lemma emergency_clampFinding {f : PluginFinding} {policy : PluginDispatchPolicy}
    (h : (clampFinding f policy).dispatchEffect = .emergencyStop) :
    f.pluginId ∈ policy.emergencyStopAllowlist ∧ f.dispatchEffect = .emergencyStop := by
  have htop : ∀ effect : DispatchEffect, effect.order ≤ DispatchEffect.emergencyStop.order := by
    intro effect
    cases effect <;> decide
  have hceiling : policy.ceilingFor f.pluginId = .emergencyStop →
      f.pluginId ∈ policy.emergencyStopAllowlist := by
    unfold PluginDispatchPolicy.ceilingFor
    split_ifs with hmem
    · exact fun _ => hmem
    · exact fun hmax => absurd hmax policy.no_blanket_emergency
  unfold clampFinding at h
  dsimp only at h
  split_ifs at h with hle
  · refine ⟨hceiling ?_, h⟩
    rw [h] at hle
    cases heffect : policy.ceilingFor f.pluginId with
    | emergencyStop => rfl
    | _ =>
      rw [heffect] at hle
      exact absurd hle (by decide)
  · dsimp only at h
    rw [h] at hle
    exact absurd (htop f.dispatchEffect) hle

/-- A policy that is derived grants no more than its base. -/
lemma PluginDispatchPolicy.allowlist_subset {base : Finset String}
    {requested : Option (Finset String)} {maxEffect : DispatchEffect}
    {policy : PluginDispatchPolicy} (h : deriveFromBase base requested maxEffect = .ok policy) :
    policy.emergencyStopAllowlist ⊆ base := by
  have hbuild : ∀ allowlist, build maxEffect allowlist = .ok policy →
      policy.emergencyStopAllowlist = allowlist := by
    intro allowlist hb
    unfold build at hb
    split_ifs at hb
    rw [← Except.ok.inj hb]
  unfold deriveFromBase at h
  cases requested with
  | none => exact (hbuild base h).subset
  | some requested =>
    dsimp only at h
    split_ifs at h with hsubset
    exact (hbuild requested h).subset.trans hsubset

namespace PluginComposition

variable {μ : Type} {α : Type*} {C : PluginComposition μ}
  {plugins : List (String × Behaviour μ)} {findings : List PluginFinding}

/-! ## What a plugin forces -/

/-- A finding of a run is a crash or is an item that was admitted. -/
lemma finding_of_run (h : C.runValidatePlan plugins = .ok findings) {g : PluginFinding}
    (hg : g ∈ findings) :
    ∃ p ∈ plugins, (∃ e, p.2 = .raises e ∧ g.dispatchEffect = .block) ∨
      ∃ item ∈ p.2.items, C.admitItem p.1 item = .ok g := by
  obtain ⟨p, hp, part, hpart, hmem⟩ := (mem_runValidatePlan h).mp hg
  refine ⟨p, hp, ?_⟩
  rcases contribute_spec hpart with ⟨e, text, crash, he, hcrash, rfl⟩ | ⟨-, hitems⟩
  · rw [List.mem_singleton.mp hmem]
    exact .inl ⟨e, he, effect_of_fromParts hcrash⟩
  · exact .inr ((mem_of_mapM_eq_ok hitems).mp hmem)

/-- In a run that returned, every item was admitted. -/
lemma exists_finding_of_item (h : C.runValidatePlan plugins = .ok findings)
    {p : String × Behaviour μ} (hp : p ∈ plugins) {item : PluginItem μ}
    (hitem : item ∈ p.2.items) : ∃ g ∈ findings, C.admitItem p.1 item = .ok g := by
  obtain ⟨part, hpart⟩ := exists_runValidatePlan.mp ⟨findings, h⟩ p hp
  rcases contribute_spec hpart with ⟨e, text, crash, he, hcrash, rfl⟩ | ⟨-, hitems⟩
  · rw [he] at hitem
    exact absurd hitem List.not_mem_nil
  · obtain ⟨g, hg⟩ := exists_mapM_eq_ok.mp ⟨part, hitems⟩ item hitem
    have hmem : g ∈ part := (mem_of_mapM_eq_ok hitems).mpr ⟨item, hitem, hg⟩
    exact ⟨g, (mem_runValidatePlan h).mpr ⟨p, hp, part, hpart, hmem⟩, hg⟩

/-- In a run that returned, every crash was reported. -/
lemma exists_finding_of_crash (h : C.runValidatePlan plugins = .ok findings)
    {p : String × Behaviour μ} (hp : p ∈ plugins) {e : Raised} (he : p.2 = .raises e) :
    ∃ g ∈ findings, g.dispatchEffect = .block := by
  obtain ⟨part, hpart⟩ := exists_runValidatePlan.mp ⟨findings, h⟩ p hp
  rcases contribute_spec hpart with ⟨_, text, crash, -, hcrash, rfl⟩ | ⟨hnot, -⟩
  · exact ⟨crash, (mem_runValidatePlan h).mpr ⟨p, hp, _, hpart, List.mem_singleton_self crash⟩,
      effect_of_fromParts hcrash⟩
  · exact absurd he (hnot e)

/-- The order of the plugins decides neither whether the run returns nor what it reports. -/
lemma runValidatePlan_perm {plugins' : List (String × Behaviour μ)}
    (h : C.runValidatePlan plugins = .ok findings) (hperm : plugins'.Perm plugins) :
    ∃ findings', C.runValidatePlan plugins' = .ok findings' ∧
      ∀ g, g ∈ findings' ↔ g ∈ findings := by
  have hall := exists_runValidatePlan.mp ⟨findings, h⟩
  obtain ⟨findings', h'⟩ :=
    exists_runValidatePlan.mpr fun p hp => hall p (hperm.mem_iff.mp hp)
  refine ⟨findings', h', fun g => ?_⟩
  rw [mem_runValidatePlan h', mem_runValidatePlan h]
  simp only [hperm.mem_iff]

lemma forced_le (core : ValidationReport α) {g : PluginFinding} (hg : g ∈ findings)
    {st : ValidationStatus} (hst : g.dispatchEffect.toStatus? = some st) :
    st ≤ (composeReport core findings).status :=
  (composeReport_isGreatest core findings).2 (.inr ⟨g, hg, hst⟩)

/-- **Specification of the composition.**  Whenever the plugins have run, the composed status is the
greatest of the core status and of what the admitted findings force; it is the same in every order
of the plugins; an item that is not an own finding with a declared code sends the plan to review, a
crash rejects it; and an emergency stop comes from the core or from a plugin of the allowlist that
asked for it. -/
theorem plugins_only_tighten (core : ValidationReport α)
    (h : C.runValidatePlan plugins = .ok findings) :
    IsGreatest (insert core.status (forcedStatuses findings))
        (composeReport core findings).status ∧
      (∀ plugins', plugins'.Perm plugins → ∃ findings',
        C.runValidatePlan plugins' = .ok findings' ∧
          (composeReport core findings').status = (composeReport core findings).status) ∧
      (∀ p ∈ plugins, ∀ item ∈ p.2.items, (∀ f, ¬ C.Admissible p.1 item f) →
        .needsClarification ≤ (composeReport core findings).status) ∧
      (∀ p ∈ plugins, ∀ e, p.2 = .raises e →
        .rejected ≤ (composeReport core findings).status) ∧
      ((composeReport core findings).status = .emergencyStop →
        core.status = .emergencyStop ∨
          ∃ p ∈ plugins, p.1 ∈ C.policy.emergencyStopAllowlist ∧
            ∃ item ∈ p.2.items, ∃ f, C.Admissible p.1 item f ∧
              f.dispatchEffect = .emergencyStop) := by
  refine ⟨composeReport_isGreatest core findings, ?_, ?_, ?_, ?_⟩
  · intro plugins' hperm
    obtain ⟨findings', h', hmem⟩ := runValidatePlan_perm h hperm
    have hsame : forcedStatuses findings' = forcedStatuses findings := by
      simp only [forcedStatuses, hmem]
    have hgreatest := composeReport_isGreatest core findings'
    rw [hsame] at hgreatest
    exact ⟨findings', h', hgreatest.unique (composeReport_isGreatest core findings)⟩
  · intro p hp item hitem hnot
    obtain ⟨g, hg, hadmit⟩ := exists_finding_of_item h hp hitem
    rcases admitItem_cases hadmit with ⟨f, hf, -⟩ | ⟨-, heffect⟩
    · exact absurd hf (hnot f)
    · exact forced_le core hg (by rw [heffect]; rfl)
  · intro p hp e he
    obtain ⟨g, hg, heffect⟩ := exists_finding_of_crash h hp he
    exact forced_le core hg (by rw [heffect]; rfl)
  · intro hstop
    rcases (composeReport_isGreatest core findings).1 with hcore | ⟨g, hg, hforced⟩
    · exact .inl (hcore.symm.trans hstop)
    · rw [hstop] at hforced
      have heffect : g.dispatchEffect = .emergencyStop := by
        cases heffect : g.dispatchEffect with
        | emergencyStop => rfl
        | _ =>
          rw [heffect] at hforced
          cases hforced
      obtain ⟨p, hp, ⟨e, -, hblock⟩ | ⟨item, hitem, hadmit⟩⟩ := finding_of_run h hg
      · rw [heffect] at hblock
        cases hblock
      · rcases admitItem_cases hadmit with ⟨f, hf, rfl⟩ | ⟨-, hreview⟩
        · obtain ⟨hallowed, hasked⟩ := emergency_clampFinding heffect
          exact .inr ⟨p, hp, hf.2.1 ▸ hallowed, item, hitem, f, hf, hasked⟩
        · rw [heffect] at hreview
          cases hreview

end PluginComposition

/-! ### A plugin that may stop -/

/-- The report of a plugin that sees smoke. -/
def smokeSeen : PluginFinding where
  pluginId := "l3.smoke"
  reasonCode := "smoke_seen"
  messageForOperator := "smoke"
  dispatchEffect := .emergencyStop

/-- A composition of two plugins, whose allowlist names the first. -/
def siteComposition : PluginComposition Empty where
  registry :=
    { declaredEmits :=
        ⟨[("l3.smoke", {"smoke_seen"}), ("l3.zone", {"target_out_of_zone"})], by decide⟩
      id_matches := by decide
      codes_match := by decide }
  policy := { emergencyStopAllowlist := {"l3.smoke"} }
  resultType := .structured
  failureMode := .isolatePlugin
  validate := nofun
  repr := id

/-- The plugin reports the smoke. -/
def smokePlugins : List (String × Behaviour Empty) :=
  [("l3.smoke", .returnsSequence [.finding smokeSeen])]

/-- An accepted plan of no nodes. -/
def acceptedCore : ValidationReport ℚ := .fromRules [] []

theorem smoke_stops_accepted_plan :
    (composeReport acceptedCore [smokeSeen]).status = .emergencyStop ∧
      (acceptedCore.status = .emergencyStop ∨
        ∃ p ∈ smokePlugins, p.1 ∈ siteComposition.policy.emergencyStopAllowlist ∧
          ∃ item ∈ p.2.items, ∃ f, siteComposition.Admissible p.1 item f ∧
            f.dispatchEffect = .emergencyStop) :=
  have hrun : siteComposition.runValidatePlan smokePlugins = .ok [smokeSeen] := rfl
  ⟨rfl, (PluginComposition.plugins_only_tighten acceptedCore hrun).2.2.2.2 rfl⟩

/-! ## The validation with plugins -/

/-- A plugin, called with the plan and its context. -/
abbrev Plugin (μ : Type) (α : Type*) :=
  String × (List (String × PyVal α) → PlanningContext α → Behaviour μ)

section ValidateWithPlugins

variable {μ : Type} {α : Type*} [LinearOrder α]

/-- `validate_with_plugins`: a plan that does not parse reaches no plugin. -/
def validateWithPlugins (model : DraftModel α) (repr : String → String)
    (raw : List (String × PyVal α)) (ctx : PlanningContext α) (C : PluginComposition μ)
    (plugins : List (Plugin μ α)) : Except (PyErr ⊕ RunFailure) (ComposedValidationReport α) :=
  match PlanValidator.validate model repr raw ctx with
  | .error e => .error (.inl e)
  | .ok core =>
    match C.runValidatePlan (plugins.map fun p => (p.1, p.2 raw ctx)) with
    | .error e => .error (.inr e)
    | .ok findings => .ok (composeReport core findings)

/-- A composed report permits the dispatch only of a plan that is acceptable by itself and that no
plugin has blocked. -/
theorem acceptable_of_permitsDispatch {model : DraftModel α} {repr : String → String}
    {draft : RoboticsPlanDraft α} {ctx : PlanningContext α} {C : PluginComposition μ}
    {plugins : List (Plugin μ α)} {report : ComposedValidationReport α}
    (h : validateWithPlugins model repr (PlanFormat.dumpDraft draft) ctx C plugins = .ok report)
    (hpermits : report.permitsDispatch = true) :
    PlanValidator.PlanAccepted draft ctx ∧ report.pluginErrors = [] := by
  unfold validateWithPlugins at h
  cases hcore : PlanValidator.validate model repr (PlanFormat.dumpDraft draft) ctx with
  | error e =>
    rw [hcore] at h
    cases h
  | ok core =>
    rw [hcore] at h
    dsimp only at h
    cases hrun : C.runValidatePlan
        (plugins.map fun p => (p.1, p.2 (PlanFormat.dumpDraft draft) ctx)) with
    | error e =>
      rw [hrun] at h
      cases h
    | ok findings =>
      rw [hrun] at h
      obtain rfl := Except.ok.inj h
      have hstatus : (composeReport core findings).status = .accepted := by
        simpa [ComposedValidationReport.permitsDispatch] using hpermits
      constructor
      · have hle : core.status ≤ .accepted :=
          hstatus ▸ (composeReport_isGreatest core findings).2 (Set.mem_insert _ _)
        have haccepted := PlanValidator.validate_accepted (model.validate_dump draft) hcore
        exact haccepted.mp (le_antisymm hle core.status.accepted_le)
      · refine List.filter_eq_nil_iff.mpr fun f hf hblocks => ?_
        obtain ⟨st, hforced, hlt⟩ := exists_forced (of_decide_eq_true hblocks)
        exact absurd (hstatus ▸ PluginComposition.forced_le core hf hforced) hlt.not_ge

end ValidateWithPlugins

end MiniatureWarehouse
