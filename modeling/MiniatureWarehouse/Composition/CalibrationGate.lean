import MiniatureWarehouse.Planning.VisualResolver
import MiniatureWarehouse.Framework.Runs

/-!
# The calibration gate of a site

The resolver trusts the reprojection error that a calibration declares of itself, and it does not
ask a calibration that declares none.  The gate judges a calibration before it is handed out: the
error has to be there, to be finite and to stay under the ceiling of the site, unless a recorded
waiver covers the camera.

The loader remembers its verdict under the id it was asked for, while the artifact is read again on
every call.  A verdict holds for the artifact it was passed on: the loader is sound in the runs in
which an admitted id keeps its artifact (`load_governed`), and hands out whatever comes under an id
that has been admitted once (`load_stale`).
-/

namespace MiniatureWarehouse

/-- `Calibration`, with the camera it belongs to. -/
structure SiteCalibration (α : Type*) extends Calibration α where
  cameraId : String

/-- `CalibrationWaiver`. -/
structure CalibrationWaiver where
  cameraId : String
  reason : String
  approvedBy : String
  grantedAt : String
  deriving DecidableEq, Repr

/-- `CalibrationGovernancePolicy`. -/
structure CalibrationGovernancePolicy (α : Type*) where
  maxReprojectionError : Option (PyFloat α) := none
  waivers : List CalibrationWaiver := []

/-- `waiver_for`. -/
def CalibrationGovernancePolicy.waiverFor {α : Type*} (policy : CalibrationGovernancePolicy α)
    (cameraId : String) : Option CalibrationWaiver :=
  policy.waivers.find? fun waiver => waiver.cameraId = cameraId

/-- `CalibrationDecision`. -/
inductive CalibrationDecision
  | accepted
  | waived
  | rejected
  deriving DecidableEq, Repr

/-- `CalibrationGateEntry`. -/
structure CalibrationGateEntry (α : Type*) where
  cameraId : String
  decision : CalibrationDecision
  reprojectionError : Option (PyFloat α)
  reasons : List String := []
  waiver : Option CalibrationWaiver := none

/-- `CalibrationGateReport`. -/
structure CalibrationGateReport (α : Type*) where
  maxReprojectionError : Option (PyFloat α)
  entries : List (CalibrationGateEntry α)

section Gate

variable {α : Type*} [LinearOrder α]

/-- The reason against an error under a ceiling, if there is one. -/
def gateReason (ceiling error : Option (PyFloat α)) : Option String :=
  match error with
  | none => some "reprojection_error_missing_self_cert"
  | some error =>
    if !error.isFinite then some "reprojection_error_not_finite"
    else
      match ceiling with
      | none => some "no_reprojection_ceiling_configured"
      | some ceiling =>
        if !ceiling.isFinite then some "no_reprojection_ceiling_configured"
        else if ceiling < error then some "reprojection_error_above_ceiling"
        else none

/-- `gate_calibration`. -/
def gateCalibration (policy : CalibrationGovernancePolicy α) (calibration : SiteCalibration α) :
    CalibrationGateEntry α :=
  match gateReason policy.maxReprojectionError calibration.reprojectionError with
  | none =>
    { cameraId := calibration.cameraId, decision := .accepted
      reprojectionError := calibration.reprojectionError }
  | some reason =>
    match policy.waiverFor calibration.cameraId with
    | some waiver =>
      { cameraId := calibration.cameraId, decision := .waived
        reprojectionError := calibration.reprojectionError, reasons := [reason]
        waiver := some waiver }
    | none =>
      { cameraId := calibration.cameraId, decision := .rejected
        reprojectionError := calibration.reprojectionError, reasons := [reason] }

/-- The verdicts of a `GovernedCalibrationLoader`, by the id that was asked for. -/
abbrev GateDecisions (α : Type*) := Dict String (CalibrationGateEntry α)

/-- A call of `load`: the id, and what the inner loader returns for it. -/
structure CalibrationRequest (α : Type*) where
  calibrationId : String
  artifact : Option (SiteCalibration α)

/-- `load` of a `GovernedCalibrationLoader`. -/
def GateDecisions.load (policy : CalibrationGovernancePolicy α) (decisions : GateDecisions α)
    (request : CalibrationRequest α) : GateDecisions α × Option (SiteCalibration α) :=
  match request.artifact with
  | none => (decisions, none)
  | some calibration =>
    match decisions.get? request.calibrationId with
    | some entry =>
      (decisions, if entry.decision = .rejected then none else some calibration)
    | none =>
      let entry := gateCalibration policy calibration
      (decisions.set request.calibrationId entry,
        if entry.decision = .rejected then none else some calibration)

/-- `report`. -/
def GateDecisions.report (policy : CalibrationGovernancePolicy α) (decisions : GateDecisions α) :
    CalibrationGateReport α :=
  ⟨policy.maxReprojectionError, decisions.entries.map Prod.snd⟩

/-- `GovernedCalibrationLoader` as its calls are handled. -/
def governedLoader (policy : CalibrationGovernancePolicy α) :
    Machine (GateDecisions α) (CalibrationRequest α) (Option (SiteCalibration α)) where
  step := GateDecisions.load policy

/-! ## The gate -/

/-- The policy admits a camera with an error: the error is finite and at most the finite ceiling, or
the camera has a waiver. -/
def CalibrationGovernancePolicy.Admits (policy : CalibrationGovernancePolicy α) (cameraId : String)
    (error : Option (PyFloat α)) : Prop :=
  (∃ e ceiling, error = some (.fin e) ∧ policy.maxReprojectionError = some (.fin ceiling) ∧
    e ≤ ceiling) ∨
  ∃ waiver ∈ policy.waivers, waiver.cameraId = cameraId

lemma gateReason_eq_none {ceiling error : Option (PyFloat α)}
    (h : gateReason ceiling error = none) :
    ∃ e c, error = some (.fin e) ∧ ceiling = some (.fin c) ∧ e ≤ c := by
  unfold gateReason at h
  cases error with
  | none => cases h
  | some error =>
    dsimp only at h
    split_ifs at h with herror
    cases ceiling with
    | none => cases h
    | some ceiling =>
      dsimp only at h
      split_ifs at h with hceiling habove
      obtain ⟨e, rfl⟩ := PyFloat.isFinite_iff.mp (by simpa using herror)
      obtain ⟨c, rfl⟩ := PyFloat.isFinite_iff.mp (by simpa using hceiling)
      exact ⟨e, c, rfl, rfl, not_lt.mp fun hlt => habove hlt⟩

/-- A calibration that is not rejected is one the policy admits. -/
lemma admits_of_gateCalibration {policy : CalibrationGovernancePolicy α}
    {calibration : SiteCalibration α}
    (h : (gateCalibration policy calibration).decision ≠ .rejected) :
    policy.Admits calibration.cameraId calibration.reprojectionError := by
  unfold gateCalibration at h
  cases hreason : gateReason policy.maxReprojectionError calibration.reprojectionError with
  | none =>
    obtain ⟨e, c, herror, hceiling, hle⟩ := gateReason_eq_none hreason
    exact .inl ⟨e, c, herror, hceiling, hle⟩
  | some reason =>
    rw [hreason] at h
    cases hwaiver : policy.waiverFor calibration.cameraId with
    | none =>
      rw [hwaiver] at h
      exact absurd rfl h
    | some waiver =>
      refine .inr ⟨waiver, List.mem_of_find?_eq_some hwaiver, ?_⟩
      exact of_decide_eq_true (List.find?_some (p := fun w : CalibrationWaiver =>
        decide (w.cameraId = calibration.cameraId)) hwaiver)

/-- The verdict depends on the camera and on the error, and it names both. -/
lemma gateCalibration_spec (policy : CalibrationGovernancePolicy α)
    (calibration : SiteCalibration α) :
    (gateCalibration policy calibration).cameraId = calibration.cameraId ∧
      (gateCalibration policy calibration).reprojectionError = calibration.reprojectionError := by
  unfold gateCalibration
  split
  · exact ⟨rfl, rfl⟩
  · split <;> exact ⟨rfl, rfl⟩

lemma gateCalibration_congr {policy : CalibrationGovernancePolicy α}
    {calibration other : SiteCalibration α} (hcamera : calibration.cameraId = other.cameraId)
    (herror : calibration.reprojectionError = other.reprojectionError) :
    gateCalibration policy calibration = gateCalibration policy other := by
  unfold gateCalibration
  rw [hcamera, herror]

/-! ## The loader -/

/-- An id that has been admitted keeps the camera and the error of its artifact. -/
def GateDecisions.Unchanged (decisions : GateDecisions α) (request : CalibrationRequest α) : Prop :=
  ∀ entry calibration, decisions.get? request.calibrationId = some entry →
    request.artifact = some calibration → entry.decision ≠ .rejected →
    entry.cameraId = calibration.cameraId ∧
      entry.reprojectionError = calibration.reprojectionError

/-- Every verdict was passed on an artifact. -/
def GateDecisions.Judged (policy : CalibrationGovernancePolicy α) (decisions : GateDecisions α) :
    Prop :=
  ∀ id entry, decisions.get? id = some entry →
    ∃ calibration, entry = gateCalibration policy calibration

/-- A calibration was handed out under a verdict that the report has. -/
def GateDecisions.Accounts (policy : CalibrationGovernancePolicy α) (decisions : GateDecisions α)
    (calibration : SiteCalibration α) : Prop :=
  ∃ entry ∈ (decisions.report policy).entries, entry.cameraId = calibration.cameraId ∧
    entry.reprojectionError = calibration.reprojectionError ∧
    entry = gateCalibration policy calibration ∧ entry.decision ≠ .rejected

variable {policy : CalibrationGovernancePolicy α} {decisions : GateDecisions α}
  {request : CalibrationRequest α}

omit [LinearOrder α] in
lemma GateDecisions.mem_report_of_get? {id : String} {entry : CalibrationGateEntry α}
    (h : decisions.get? id = some entry) : entry ∈ (decisions.report policy).entries :=
  List.mem_map.mpr ⟨(id, entry), decisions.mem_entries_iff.mpr h, rfl⟩

/-- What a call does: nothing, where a verdict is there already or nothing is found, and otherwise
it adds the verdict on the artifact. -/
lemma GateDecisions.load_cases (policy : CalibrationGovernancePolicy α)
    (decisions : GateDecisions α) (request : CalibrationRequest α) :
    decisions.load policy request = (decisions, none) ∨
    (∃ calibration entry, request.artifact = some calibration ∧
      decisions.get? request.calibrationId = some entry ∧ entry.decision ≠ .rejected ∧
      decisions.load policy request = (decisions, some calibration)) ∨
    ∃ calibration, request.artifact = some calibration ∧
      decisions.get? request.calibrationId = none ∧
      decisions.load policy request =
        (decisions.set request.calibrationId (gateCalibration policy calibration),
          if (gateCalibration policy calibration).decision = .rejected then none
          else some calibration) := by
  unfold load
  cases hartifact : request.artifact with
  | none => exact .inl rfl
  | some calibration =>
    dsimp only
    cases hget : decisions.get? request.calibrationId with
    | none => exact .inr (.inr ⟨calibration, rfl, rfl, rfl⟩)
    | some entry =>
      dsimp only
      by_cases hrejected : entry.decision = .rejected
      · rw [if_pos hrejected]
        exact .inl rfl
      · rw [if_neg hrejected]
        exact .inr (.inl ⟨calibration, entry, rfl, rfl, hrejected, rfl⟩)

/-- The report only grows. -/
lemma GateDecisions.report_load {entry : CalibrationGateEntry α}
    (h : entry ∈ (decisions.report policy).entries) :
    entry ∈ ((decisions.load policy request).1.report policy).entries := by
  rcases decisions.load_cases policy request with
    hload | ⟨c, e, -, -, -, hload⟩ | ⟨c, -, hget, hload⟩
  · rwa [hload]
  · rwa [hload]
  · rw [hload]
    unfold report
    rw [Dict.entries_set_of_get?_eq_none hget, List.map_append]
    exact List.mem_append_left _ h

lemma GateDecisions.judged_load (h : decisions.Judged policy) :
    (decisions.load policy request).1.Judged policy := by
  rcases decisions.load_cases policy request with
    hload | ⟨c, e, -, -, -, hload⟩ | ⟨c, -, hget, hload⟩
  · rwa [hload]
  · rwa [hload]
  · rw [hload]
    intro id entry hentry
    rw [Dict.get?_set] at hentry
    split_ifs at hentry with hid
    · exact ⟨c, (Option.some.inj hentry).symm⟩
    · exact h id entry hentry

/-- A calibration that is handed out while its id keeps its artifact is in the report. -/
lemma GateDecisions.accounts_load (h : decisions.Judged policy)
    (hrequest : decisions.Unchanged request) {calibration : SiteCalibration α}
    (hload : (decisions.load policy request).2 = some calibration) :
    (decisions.load policy request).1.Accounts policy calibration := by
  obtain ⟨hcamera, herror⟩ := gateCalibration_spec policy calibration
  rcases decisions.load_cases policy request with
    hnone | ⟨c, entry, hartifact, hget, hadmitted, hcached⟩ | ⟨c, hartifact, hget, hnew⟩
  · rw [hnone] at hload
    cases hload
  · rw [hcached] at hload ⊢
    obtain rfl := Option.some.inj hload
    obtain ⟨judged, rfl⟩ := h _ entry hget
    obtain ⟨hcamera', herror'⟩ := hrequest _ c hget hartifact hadmitted
    obtain ⟨hjudgedCamera, hjudgedError⟩ := gateCalibration_spec policy judged
    have hsame : gateCalibration policy judged = gateCalibration policy c :=
      gateCalibration_congr (hjudgedCamera.symm.trans hcamera') (hjudgedError.symm.trans herror')
    exact ⟨_, mem_report_of_get? hget, hcamera', herror', hsame, hadmitted⟩
  · rw [hnew] at hload ⊢
    dsimp only at hload
    split_ifs at hload with hrejected
    obtain rfl := Option.some.inj hload
    have hmem : gateCalibration policy c ∈ (GateDecisions.report policy
        (decisions.set request.calibrationId (gateCalibration policy c))).entries :=
      mem_report_of_get? (Dict.get?_set_self decisions request.calibrationId _)
    exact ⟨_, hmem, hcamera, herror, rfl, hrejected⟩

/-- In every run in which an admitted id keeps its artifact, the policy admits every calibration
that is handed out, and the report accounts for it. -/
theorem load_governed (policy : CalibrationGovernancePolicy α)
    (requests : List (CalibrationRequest α))
    (hrun : (governedLoader policy).AllSteps GateDecisions.Unchanged .empty requests) :
    ∀ calibration, some calibration ∈ (governedLoader policy).outputs .empty requests →
      policy.Admits calibration.cameraId calibration.reprojectionError ∧
      ((governedLoader policy).run .empty requests).Accounts policy calibration := by
  have hinv : ((governedLoader policy).run .empty requests).Judged policy ∧
      ∀ calibration, some calibration ∈ (governedLoader policy).outputs .empty requests →
        ((governedLoader policy).run .empty requests).Accounts policy calibration := by
    refine Machine.run_history_of_allSteps (M := governedLoader policy)
      (C := GateDecisions.Unchanged)
      (I := fun requests decisions => GateDecisions.Judged policy decisions ∧
        ∀ calibration, some calibration ∈ (governedLoader policy).outputs .empty requests →
          GateDecisions.Accounts policy decisions calibration) ?_ ?_ hrun
    · refine ⟨fun id entry h => ?_, fun c hc => absurd hc List.not_mem_nil⟩
      cases h
    · rintro past request hunchanged ⟨hjudged, haccounts⟩
      refine ⟨GateDecisions.judged_load hjudged, fun calibration hmem => ?_⟩
      rw [Machine.outputs_append, List.mem_append] at hmem
      rcases hmem with hpast | hnow
      · obtain ⟨entry, hentry, hrest⟩ := haccounts calibration hpast
        exact ⟨entry, GateDecisions.report_load hentry, hrest⟩
      · exact GateDecisions.accounts_load hjudged hunchanged (List.mem_singleton.mp hnow).symm
  intro calibration hmem
  have haccounts := hinv.2 calibration hmem
  obtain ⟨entry, -, -, -, hentry, hadmitted⟩ := id haccounts
  rw [hentry] at hadmitted
  exact ⟨admits_of_gateCalibration hadmitted, haccounts⟩

end Gate

/-- A site that allows an error of one pixel. -/
def onePixel : CalibrationGovernancePolicy ℚ := { maxReprojectionError := some (.fin 1) }

/-- The calibration of a camera with an error. -/
def calibrationWith (error : Option (PyFloat ℚ)) : SiteCalibration ℚ :=
  { cameraId := "cam_1", reprojectionError := error }

lemma gateCalibration_onePixel : gateCalibration onePixel (calibrationWith (some (.fin 1))) =
    { cameraId := "cam_1", decision := .accepted, reprojectionError := some (.fin 1) } := by
  have hreason : gateReason onePixel.maxReprojectionError (some (.fin 1)) = none := by
    decide +kernel
  unfold gateCalibration calibrationWith
  dsimp only
  rw [hreason]

/-- A calibration that is loaded twice is accounted for. -/
theorem load_governed_twice :
    onePixel.Admits "cam_1" (some (.fin 1)) ∧
      ((governedLoader onePixel).run .empty
        [⟨"cal_1", some (calibrationWith (some (.fin 1)))⟩,
          ⟨"cal_1", some (calibrationWith (some (.fin 1)))⟩]).Accounts onePixel
            (calibrationWith (some (.fin 1))) := by
  refine load_governed onePixel
    [⟨"cal_1", some (calibrationWith (some (.fin 1)))⟩,
      ⟨"cal_1", some (calibrationWith (some (.fin 1)))⟩]
    ⟨fun entry c hget => ?_, fun entry c hget hartifact _ => ?_, trivial⟩
    (calibrationWith (some (.fin 1))) ?_
  · cases hget
  · obtain rfl := Option.some.inj hartifact
    obtain rfl : gateCalibration onePixel (calibrationWith (some (.fin 1))) = entry :=
      Option.some.inj hget
    exact gateCalibration_spec onePixel _
  · refine List.mem_cons.mpr (.inl ?_)
    unfold governedLoader GateDecisions.load
    dsimp only
    rw [gateCalibration_onePixel]
    rfl

/-- An artifact that declares no error any more is handed out under the verdict on the one it
replaced. -/
theorem load_stale :
    ∃ calibration, some calibration ∈ (governedLoader onePixel).outputs .empty
        [⟨"cal_1", some (calibrationWith (some (.fin 1)))⟩,
          ⟨"cal_1", some (calibrationWith none)⟩] ∧
      ¬ onePixel.Admits calibration.cameraId calibration.reprojectionError := by
  refine ⟨calibrationWith none, ?_, ?_⟩
  · refine List.mem_cons_of_mem _ (List.mem_singleton.mpr ?_)
    unfold governedLoader GateDecisions.load
    dsimp only
    rw [gateCalibration_onePixel]
    rfl
  · rintro (⟨e, ceiling, herror, -⟩ | ⟨waiver, hwaiver, -⟩)
    · cases herror
    · cases hwaiver

end MiniatureWarehouse
