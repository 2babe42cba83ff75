import MiniatureWarehouse.Planning.Validator
import Mathlib.Data.Finset.Basic

/-!
# Plugins of the validation

A plan that the core validator has judged is shown to plugins, and what they report joins the
verdict.  A plugin asks for an effect on the dispatch; a policy says how far it may go.  What a
plugin reports is admitted one item at a time: an item that is no finding, that claims to be of
another plugin, or whose code the plugin has not declared is turned into a finding that sends the
plan to human review.

A plugin is third-party code and may return any object.  `Behaviour` lists what the composition can
tell apart: the call raises, or it returns nothing, a sequence, or another object, which may be
falsy, may not be iterable, and may fail while it is iterated.
-/

namespace MiniatureWarehouse

/-! ## Findings and the policy -/

/-- `EFFECT_ORDER`. -/
def DispatchEffect.order : DispatchEffect → ℕ
  | none => 0
  | needsClarification => 1
  | block => 2
  | emergencyStop => 3

/-- `PluginFinding`; the variant with a single code splits it into the same two parts. -/
structure PluginFinding where
  pluginId : String
  reasonCode : String
  messageForOperator : String
  dispatchEffect : DispatchEffect
  fieldPath : String := ""
  debugDetail : String := ""
  clampedFrom : Option DispatchEffect := Option.none
  deriving DecidableEq, Repr

/-- `full_code`. -/
def PluginFinding.fullCode (f : PluginFinding) : String := f.pluginId ++ ":" ++ f.reasonCode

/-- `PluginDispatchPolicy`: an emergency stop is granted by name only. -/
structure PluginDispatchPolicy where
  maxEffect : DispatchEffect := .block
  emergencyStopAllowlist : Finset String := ∅
  no_blanket_emergency : maxEffect ≠ .emergencyStop := by decide

namespace PluginDispatchPolicy

/-- The constructor, with its validator. -/
def build (maxEffect : DispatchEffect) (allowlist : Finset String) :
    Except PyErr PluginDispatchPolicy :=
  if h : maxEffect = .emergencyStop then .error .valueError
  else .ok ⟨maxEffect, allowlist, h⟩

/-- `derive_from_base`: a request may only narrow the allowlist of the base. -/
def deriveFromBase (base : Finset String) (requested : Option (Finset String))
    (maxEffect : DispatchEffect) : Except PyErr PluginDispatchPolicy :=
  match requested with
  | none => build maxEffect base
  | some requested => if requested ⊆ base then build maxEffect requested else .error .valueError

/-- `ceiling_for`. -/
def ceilingFor (policy : PluginDispatchPolicy) (pluginId : String) : DispatchEffect :=
  if pluginId ∈ policy.emergencyStopAllowlist then .emergencyStop else policy.maxEffect

end PluginDispatchPolicy

/-- `clamp_finding`. -/
def clampFinding (f : PluginFinding) (policy : PluginDispatchPolicy) : PluginFinding :=
  let ceiling := policy.ceilingFor f.pluginId
  if f.dispatchEffect.order ≤ ceiling.order then f
  else { f with dispatchEffect := ceiling, clampedFrom := some f.dispatchEffect }

/-! ## Codes -/

/-- `UNDECLARED_REASON_CODE`. -/
def undeclaredReasonCode : String := "undeclared_reason_code"

/-- `SPOOFED_PLUGIN_ID_REASON_CODE`. -/
def spoofedPluginIdReasonCode : String := "spoofed_plugin_id"

/-- `MALFORMED_FINDING_REASON_CODE`. -/
def malformedFindingReasonCode : String := "malformed_finding"

/-- `PLUGIN_CRASH_REASON_CODE`. -/
def pluginCrashReasonCode : String := "plugin_crash"

/-- `RESERVED_REASON_CODES`. -/
def reservedReasonCodes : Finset String :=
  {undeclaredReasonCode, spoofedPluginIdReasonCode, malformedFindingReasonCode,
    pluginCrashReasonCode}

/-- `REASON_CODE_PATTERN`. -/
def isReasonCode : List Char → Bool
  | [] => false
  | c :: cs => c.isLower && cs.all fun c => c.isLower || c.isDigit || c = '_'

/-- The rest of a match of `PLUGIN_ID_PATTERN`, inside of a segment or before one. -/
def isPluginIdRest : Bool → List Char → Bool
  | inside, [] => inside
  | true, c :: cs =>
    if c = '.' then isPluginIdRest false cs
    else (c.isLower || c.isDigit || c = '_') && isPluginIdRest true cs
  | false, c :: cs => c.isLower && isPluginIdRest true cs

/-- `PLUGIN_ID_PATTERN`. -/
def isPluginId (cs : List Char) : Bool := isPluginIdRest false cs

/-- A match of `^...$`: the end of the pattern may be followed by a newline. -/
def matchesLine (pattern : List Char → Bool) (s : String) : Bool :=
  pattern s.toList || (s.toList.getLast? = some '\n' && pattern s.toList.dropLast)

/-- `PluginCodeRegistry`: the codes each plugin has declared. -/
structure PluginCodeRegistry where
  declaredEmits : Dict String (Finset String)
  id_matches : ∀ e ∈ declaredEmits.entries, matchesLine isPluginId e.1 = true
  codes_match : ∀ e ∈ declaredEmits.entries, ∀ code ∈ e.2,
    matchesLine isReasonCode code = true ∧ code ∉ reservedReasonCodes

namespace PluginCodeRegistry

/-- The constructor, with `_validate_vocabulary`. -/
def build (emits : Dict String (Finset String)) : Except PyErr PluginCodeRegistry :=
  if h : (∀ e ∈ emits.entries, matchesLine isPluginId e.1 = true) ∧
      ∀ e ∈ emits.entries, ∀ code ∈ e.2,
        matchesLine isReasonCode code = true ∧ code ∉ reservedReasonCodes then
    .ok ⟨emits, h.1, h.2⟩
  else .error .valueError

/-- `is_registered`. -/
def isRegistered (registry : PluginCodeRegistry) (pluginId : String) : Bool :=
  registry.declaredEmits.contains pluginId

/-- `is_declared`. -/
def isDeclared (registry : PluginCodeRegistry) (pluginId reasonCode : String) : Bool :=
  decide (reasonCode ∈ registry.declaredEmits.getD pluginId ∅)

/-- The codes of the composition itself cannot be declared. -/
lemma isDeclared_of_reserved (registry : PluginCodeRegistry) {pluginId code : String}
    (h : code ∈ reservedReasonCodes) : registry.isDeclared pluginId code = false := by
  unfold isDeclared Dict.getD
  cases hget : registry.declaredEmits.get? pluginId with
  | none => simp
  | some codes =>
    have hentry := (registry.declaredEmits.mem_entries_iff).mpr hget
    simpa using fun hmem => (registry.codes_match _ hentry code hmem).2 h

lemma matches_of_isRegistered {registry : PluginCodeRegistry} {pluginId : String}
    (h : registry.isRegistered pluginId = true) : matchesLine isPluginId pluginId = true := by
  obtain ⟨codes, hget⟩ := (registry.declaredEmits.contains_iff pluginId).mp h
  exact registry.id_matches _ ((registry.declaredEmits.mem_entries_iff).mpr hget)

end PluginCodeRegistry

/-- The two finding types: one field for the whole code, or two. -/
inductive ResultType
  | namespaced
  | structured
  deriving DecidableEq, Repr

/-- The finding type takes the id of the plugin, beside a code of the composition: in the single
field the id is followed by the code, so that no newline may end it. -/
def ResultType.carries : ResultType → String → Bool
  | namespaced, pluginId => isPluginId pluginId.toList
  | structured, pluginId => matchesLine isPluginId pluginId

/-! ## What a plugin does -/

/-- What was raised: whether it is an `Exception`, and its `repr`, if that gives a text. -/
structure Raised where
  isException : Bool
  repr : Option String

/-- An item of a result: an instance of the finding type, a mapping, any other object, or an object
that cannot be looked at without an exception. -/
inductive PluginItem (μ : Type)
  | finding (f : PluginFinding)
  | mapping (fields : μ)
  | other (typeName : String)
  | broken

/-- What a plugin does when it is called. -/
inductive Behaviour (μ : Type)
  /-- The call raises, or the truth value of the result does. -/
  | raises (e : Raised)
  /-- It returns `None`. -/
  | returnsNone
  /-- It returns a sequence, as the specification of the hook asks. -/
  | returnsSequence (items : List (PluginItem μ))
  /-- It returns another object: its truth value, and, if it can be iterated, the items it yields
  and whether it then raises. -/
  | returnsObject (truthy : Bool) (iteration : Option (List (PluginItem μ) × Bool))

/-- The items of the result that are gone through. -/
def Behaviour.items {μ : Type} : Behaviour μ → List (PluginItem μ)
  | .returnsSequence items => items
  | .returnsObject true (some (items, _)) => items
  | .returnsObject _ _ | .raises _ | .returnsNone => []

/-- `FailureMode`. -/
inductive FailureMode
  | refuseRun
  | isolatePlugin
  deriving DecidableEq, Repr

/-- How a run of the plugins fails: by the refusal of the composition, or by an exception that is
not its own. -/
inductive RunFailure
  | refused
  | escaped
  deriving DecidableEq, Repr

/-- `PluginComposition`, with the validation of its finding type on a mapping, which counts the
errors it finds. -/
structure PluginComposition (μ : Type) where
  registry : PluginCodeRegistry
  policy : PluginDispatchPolicy
  resultType : ResultType
  failureMode : FailureMode
  validate : μ → Except ℕ PluginFinding
  repr : String → String

namespace PluginComposition

variable {μ : Type} (C : PluginComposition μ)

/-! ## Admission -/

/-- `from_parts` of the finding type. -/
def fromParts (pluginId reasonCode message : String) (effect : DispatchEffect)
    (debugDetail : String) : Except RunFailure PluginFinding :=
  if C.resultType.carries pluginId then
    .ok { pluginId := pluginId, reasonCode := reasonCode, messageForOperator := message,
          dispatchEffect := effect, debugDetail := debugDetail }
  else .error .escaped

/-- `_fail_closed`. -/
def failClosed (pluginId reasonCode message debugDetail : String) :
    Except RunFailure PluginFinding :=
  C.fromParts pluginId reasonCode message .needsClarification debugDetail

/-- `_crash_finding`. -/
def crashFinding (pluginId text : String) : Except RunFailure PluginFinding :=
  C.fromParts pluginId pluginCrashReasonCode
    ("Plugin " ++ C.repr pluginId ++ " crashed during validation; plan withheld for safety.")
    .block text

/-- `_coerce`: a finding of the plugin, or the conversion of what is none. -/
def coerce (pluginId : String) : PluginItem μ → Except RunFailure (PluginFinding × Bool)
  | .finding f => .ok (f, false)
  | .mapping fields =>
    match C.validate fields with
    | .ok f => .ok (f, false)
    | .error count =>
      (C.failClosed pluginId malformedFindingReasonCode
        ("Plugin " ++ C.repr pluginId ++
          " returned a malformed finding; withheld for human review.")
        ("validation error: " ++ toString count ++ " error(s)")).map (·, true)
  | .other typeName =>
    (C.failClosed pluginId malformedFindingReasonCode
      ("Plugin " ++ C.repr pluginId ++ " returned a non-finding object (" ++ typeName ++
        "); withheld for human review.")
      ("got " ++ typeName)).map (·, true)
  | .broken => .error .escaped

/-- The checks of a coerced finding: the plugin it claims, the codes that are declared, and the
ceiling of the policy. -/
def check (pluginId : String) (f : PluginFinding) : Except RunFailure PluginFinding :=
  if f.pluginId ≠ pluginId then
    C.failClosed pluginId spoofedPluginIdReasonCode
      ("Plugin " ++ C.repr pluginId ++ " emitted a finding claiming plugin_id " ++
        C.repr f.pluginId ++ "; withheld for human review.")
      ("claimed=" ++ C.repr f.fullCode)
  else if !C.registry.isDeclared pluginId f.reasonCode then
    C.failClosed pluginId undeclaredReasonCode
      ("Plugin " ++ C.repr pluginId ++ " emitted undeclared code " ++ C.repr f.reasonCode ++
        "; withheld for human review.")
      ("undeclared=" ++ C.repr f.fullCode ++ " (manifest emits, doc09:201)")
  else .ok (clampFinding f C.policy)

/-- `_admit`. -/
def admitItem (pluginId : String) (item : PluginItem μ) : Except RunFailure PluginFinding :=
  match C.coerce pluginId item with
  | .error e => .error e
  | .ok (f, isFailClosed) => if isFailClosed then .ok f else C.check pluginId f

/-! ## The run -/

/-- The `except` of a call: an exception that is no `Exception` is not caught. -/
def onRaise (pluginId : String) (e : Raised) : Except RunFailure (List PluginFinding) :=
  if !e.isException then .error .escaped
  else
    match e.repr, C.failureMode with
    | none, _ => .error .escaped
    | some _, .refuseRun => .error .refused
    | some text, .isolatePlugin => (C.crashFinding pluginId text).map ([·])

/-- The loop over a result, which yields the items and may then raise. -/
def admitAll (pluginId : String) (items : List (PluginItem μ)) (fails : Bool) :
    Except RunFailure (List PluginFinding) :=
  (items.mapM (C.admitItem pluginId)).bind fun findings =>
    if fails then .error .escaped else .ok findings

/-- What one plugin contributes.  Only the call is guarded: the result is iterated, and its items
are admitted, outside of the `try`. -/
def contribute (pluginId : String) : Behaviour μ → Except RunFailure (List PluginFinding)
  | .raises e => C.onRaise pluginId e
  | .returnsNone => .ok []
  | .returnsSequence items => C.admitAll pluginId items false
  | .returnsObject false _ => .ok []
  | .returnsObject true none => .error .escaped
  | .returnsObject true (some (items, fails)) => C.admitAll pluginId items fails

/-- `run_validate_plan`: the contributions of the registered plugins, in their order. -/
def runValidatePlan (plugins : List (String × Behaviour μ)) :
    Except RunFailure (List PluginFinding) :=
  (plugins.mapM fun p => C.contribute p.1 p.2).map List.flatten

end PluginComposition

/-! ## The composed report -/

/-- The step of the aggregation: a finding whose status is more severe replaces it. -/
def escalateFinding (status : ValidationStatus) (f : PluginFinding) : ValidationStatus :=
  match f.dispatchEffect.toStatus? with
  | none => status
  | some forced => if status.priority < forced.priority then forced else status

/-- `ComposedValidationReport`. -/
structure ComposedValidationReport (α : Type*) where
  status : ValidationStatus
  core : ValidationReport α
  pluginErrors : List PluginFinding
  pluginWarnings : List PluginFinding

/-- `permits_dispatch` of the composed report. -/
def ComposedValidationReport.permitsDispatch {α : Type*} (r : ComposedValidationReport α) : Bool :=
  r.status = .accepted

/-- `compose_report`. -/
def composeReport {α : Type*} (core : ValidationReport α) (findings : List PluginFinding) :
    ComposedValidationReport α where
  status := findings.foldl escalateFinding core.status
  core := core
  pluginErrors := findings.filter fun f => f.dispatchEffect ≠ .none
  pluginWarnings := findings.filter fun f => f.dispatchEffect = .none

/-! ## What an item comes to -/

namespace PluginComposition

variable {μ : Type} (C : PluginComposition μ) {pluginId : String}

/-- The finding an item is, before it is checked. -/
def asFinding : PluginItem μ → Option PluginFinding
  | .finding f => some f
  | .mapping fields => (C.validate fields).toOption
  | .other _ | .broken => none

/-- The item is a finding of the plugin itself, with a declared code. -/
def Admissible (pluginId : String) (item : PluginItem μ) (f : PluginFinding) : Prop :=
  C.asFinding item = some f ∧ f.pluginId = pluginId ∧
    C.registry.isDeclared pluginId f.reasonCode = true

/-- The item does not raise while it is admitted: what is no finding of the plugin needs an id that
a conversion can carry. -/
def Admits (pluginId : String) (item : PluginItem μ) : Prop :=
  (∃ f, C.Admissible pluginId item f) ∨ item ≠ .broken ∧ C.resultType.carries pluginId = true

/-- What becomes of an item: it is a finding of the plugin and is clamped, or it is converted, or it
raises. -/
inductive Admission (pluginId : String) (item : PluginItem μ) :
    Except RunFailure PluginFinding → Prop
  | clamped {f : PluginFinding} (h : C.Admissible pluginId item f) :
      Admission pluginId item (.ok (clampFinding f C.policy))
  | converted (h : ∀ f, ¬ C.Admissible pluginId item f) (hne : item ≠ .broken)
      (reasonCode message debugDetail : String) :
      Admission pluginId item (C.failClosed pluginId reasonCode message debugDetail)
  | raised (h : item = .broken) : Admission pluginId item (.error .escaped)

variable {C}

lemma effect_of_fromParts {reasonCode message debugDetail : String} {effect : DispatchEffect}
    {g : PluginFinding} (h : C.fromParts pluginId reasonCode message effect debugDetail = .ok g) :
    g.dispatchEffect = effect := by
  unfold fromParts at h
  split_ifs at h
  rw [← Except.ok.inj h]

lemma exists_fromParts {reasonCode message debugDetail : String} {effect : DispatchEffect} :
    (∃ g, C.fromParts pluginId reasonCode message effect debugDetail = .ok g) ↔
      C.resultType.carries pluginId = true := by
  unfold fromParts
  split_ifs with hcarries <;> simp [hcarries]

/-- A finding of an item is checked as the item is admitted. -/
lemma check_spec {item : PluginItem μ} {f : PluginFinding} (hf : C.asFinding item = some f) :
    C.Admission pluginId item (C.check pluginId f) := by
  have honly : ∀ f', C.Admissible pluginId item f' → f' = f :=
    fun f' h => Option.some.inj (h.1.symm.trans hf)
  have hne : item ≠ .broken := by
    rintro rfl
    cases hf
  unfold check
  split_ifs with hid hdeclared
  · refine .converted (fun f' h => ?_) hne _ _ _
    obtain rfl := honly f' h
    exact hid h.2.1
  · refine .converted (fun f' h => ?_) hne _ _ _
    obtain rfl := honly f' h
    rw [h.2.2] at hdeclared
    cases hdeclared
  · exact .clamped ⟨hf, not_not.mp hid, by simpa using hdeclared⟩

lemma admitItem_of_coerce {item : PluginItem μ} {f : PluginFinding}
    (h : C.coerce pluginId item = .ok (f, false)) :
    C.admitItem pluginId item = C.check pluginId f := by
  unfold admitItem
  rw [h]
  rfl

lemma admitItem_of_failClosed {item : PluginItem μ} {reasonCode message debugDetail : String}
    (h : C.coerce pluginId item =
      (C.failClosed pluginId reasonCode message debugDetail).map (·, true)) :
    C.admitItem pluginId item = C.failClosed pluginId reasonCode message debugDetail := by
  unfold admitItem
  rw [h]
  cases C.failClosed pluginId reasonCode message debugDetail <;> rfl

lemma not_admissible {item : PluginItem μ} (h : C.asFinding item = none) (f : PluginFinding) :
    ¬ C.Admissible pluginId item f := by
  rintro ⟨hf, -⟩
  rw [h] at hf
  cases hf

lemma admitItem_spec (item : PluginItem μ) :
    C.Admission pluginId item (C.admitItem pluginId item) := by
  cases item with
  | finding f =>
    rw [admitItem_of_coerce rfl]
    exact check_spec rfl
  | mapping fields =>
    cases hvalid : C.validate fields with
    | ok f =>
      have hcoerce : C.coerce pluginId (.mapping fields) = .ok (f, false) := by
        simp only [coerce, hvalid]
      rw [admitItem_of_coerce hcoerce]
      exact check_spec (by simp only [asFinding, hvalid, Except.toOption])
    | error count =>
      have hno : C.asFinding (.mapping fields) = none := by
        simp only [asFinding, hvalid, Except.toOption]
      have hcoerce : C.coerce pluginId (.mapping fields) =
          (C.failClosed pluginId malformedFindingReasonCode
            ("Plugin " ++ C.repr pluginId ++
              " returned a malformed finding; withheld for human review.")
            ("validation error: " ++ toString count ++ " error(s)")).map (·, true) := by
        simp only [coerce, hvalid]
      rw [admitItem_of_failClosed hcoerce]
      exact .converted (not_admissible hno) nofun _ _ _
  | other typeName =>
    have hno : C.asFinding (.other typeName) = none := rfl
    rw [admitItem_of_failClosed rfl]
    exact .converted (not_admissible hno) nofun _ _ _
  | broken => exact .raised rfl

/-- An item that is admitted is clamped when it is admissible, and sent to human review when it is
not. -/
lemma admitItem_cases {item : PluginItem μ} {g : PluginFinding}
    (h : C.admitItem pluginId item = .ok g) :
    (∃ f, C.Admissible pluginId item f ∧ g = clampFinding f C.policy) ∨
      (∀ f, ¬ C.Admissible pluginId item f) ∧ g.dispatchEffect = .needsClarification := by
  have hspec : C.Admission pluginId item (C.admitItem pluginId item) := admitItem_spec item
  generalize C.admitItem pluginId item = r at h hspec
  cases hspec with
  | clamped hf => exact .inl ⟨_, hf, (Except.ok.inj h).symm⟩
  | converted hnot hne _ _ _ => exact .inr ⟨hnot, effect_of_fromParts h⟩
  | raised hbroken => cases h

lemma exists_admitItem_iff {item : PluginItem μ} :
    (∃ g, C.admitItem pluginId item = .ok g) ↔ C.Admits pluginId item := by
  have hspec : C.Admission pluginId item (C.admitItem pluginId item) := admitItem_spec item
  generalize C.admitItem pluginId item = r at hspec
  cases hspec with
  | clamped hf => exact iff_of_true ⟨_, rfl⟩ (.inl ⟨_, hf⟩)
  | converted hnot hne _ _ _ =>
    rw [failClosed, exists_fromParts]
    constructor
    · exact fun hcarries => .inr ⟨hne, hcarries⟩
    · rintro (⟨f, hf⟩ | ⟨-, hcarries⟩)
      · exact absurd hf (hnot f)
      · exact hcarries
  | raised hbroken =>
    refine iff_of_false nofun ?_
    rintro (⟨f, hf⟩ | ⟨hne, -⟩)
    · exact not_admissible (by rw [hbroken]; rfl) f hf
    · exact hne hbroken

/-! ## What a plugin comes to -/

lemma onRaise_spec {e : Raised} {part : List PluginFinding}
    (h : C.onRaise pluginId e = .ok part) :
    e.isException = true ∧ ∃ text g, e.repr = some text ∧
      C.crashFinding pluginId text = .ok g ∧ part = [g] := by
  unfold onRaise at h
  split_ifs at h with hexception
  refine ⟨by simpa using hexception, ?_⟩
  split at h
  · cases h
  · cases h
  · rename_i text hrepr _
    obtain ⟨g, hg, rfl⟩ := exceptMap_eq_ok.mp h
    exact ⟨text, g, hrepr, hg, rfl⟩

lemma exists_onRaise (hmode : C.failureMode = .isolatePlugin) {e : Raised} :
    (∃ part, C.onRaise pluginId e = .ok part) ↔
      e.isException = true ∧ e.repr ≠ none ∧ C.resultType.carries pluginId = true := by
  constructor
  · rintro ⟨part, h⟩
    obtain ⟨hexception, text, g, hrepr, hcrash, -⟩ := onRaise_spec h
    exact ⟨hexception, by simp [hrepr], exists_fromParts.mp ⟨g, hcrash⟩⟩
  · rintro ⟨hexception, hrepr, hcarries⟩
    obtain ⟨text, htext⟩ := Option.ne_none_iff_exists'.mp hrepr
    obtain ⟨g, hg⟩ : ∃ g, C.crashFinding pluginId text = .ok g := exists_fromParts.mpr hcarries
    refine ⟨[g], ?_⟩
    simp only [onRaise, hexception, htext, hmode, hg]
    rfl

lemma admitAll_eq_ok {items : List (PluginItem μ)} {fails : Bool} {part : List PluginFinding} :
    C.admitAll pluginId items fails = .ok part ↔
      items.mapM (C.admitItem pluginId) = .ok part ∧ fails = false := by
  unfold admitAll
  rw [exceptBind_eq_ok]
  cases fails <;> simp

lemma exists_admitAll {items : List (PluginItem μ)} {fails : Bool} :
    (∃ part, C.admitAll pluginId items fails = .ok part) ↔
      (∀ item ∈ items, C.Admits pluginId item) ∧ fails = false := by
  simp only [admitAll_eq_ok, exists_and_right, exists_mapM_eq_ok, exists_admitItem_iff]

/-- A plugin contributes the report of its crash, or what its items come to. -/
lemma contribute_spec {b : Behaviour μ} {part : List PluginFinding}
    (h : C.contribute pluginId b = .ok part) :
    (∃ e text g, b = .raises e ∧ C.crashFinding pluginId text = .ok g ∧ part = [g]) ∨
      (∀ e, b ≠ .raises e) ∧ b.items.mapM (C.admitItem pluginId) = .ok part := by
  cases b with
  | raises e =>
    obtain ⟨-, text, g, -, hg, hpart⟩ := onRaise_spec h
    exact .inl ⟨e, text, g, rfl, hg, hpart⟩
  | returnsNone => exact .inr ⟨nofun, h⟩
  | returnsSequence items => exact .inr ⟨nofun, (admitAll_eq_ok.mp h).1⟩
  | returnsObject truthy iteration =>
    refine .inr ⟨nofun, ?_⟩
    rcases truthy, iteration with ⟨_ | _, _ | ⟨items, fails⟩⟩
    · exact h
    · exact h
    · cases h
    · exact (admitAll_eq_ok.mp h).1

/-- The findings of a run are those of the plugins. -/
lemma mem_runValidatePlan {plugins : List (String × Behaviour μ)} {findings : List PluginFinding}
    (h : C.runValidatePlan plugins = .ok findings) {g : PluginFinding} :
    g ∈ findings ↔ ∃ p ∈ plugins, ∃ part, C.contribute p.1 p.2 = .ok part ∧ g ∈ part := by
  obtain ⟨parts, hparts, rfl⟩ := exceptMap_eq_ok.mp h
  rw [List.mem_flatten]
  constructor
  · rintro ⟨part, hpart, hg⟩
    obtain ⟨p, hp, hcontribute⟩ := (mem_of_mapM_eq_ok hparts).mp hpart
    exact ⟨p, hp, part, hcontribute, hg⟩
  · rintro ⟨p, hp, part, hcontribute, hg⟩
    exact ⟨part, (mem_of_mapM_eq_ok hparts).mpr ⟨p, hp, hcontribute⟩, hg⟩

/-- A run returns when every plugin contributes. -/
lemma exists_runValidatePlan {plugins : List (String × Behaviour μ)} :
    (∃ findings, C.runValidatePlan plugins = .ok findings) ↔
      ∀ p ∈ plugins, ∃ part, C.contribute p.1 p.2 = .ok part := by
  rw [← exists_mapM_eq_ok (f := fun p : String × Behaviour μ => C.contribute p.1 p.2)]
  constructor
  · rintro ⟨findings, h⟩
    obtain ⟨parts, hparts, -⟩ := exceptMap_eq_ok.mp h
    exact ⟨parts, hparts⟩
  · rintro ⟨parts, hparts⟩
    exact ⟨parts.flatten, exceptMap_eq_ok.mpr ⟨parts, hparts, rfl⟩⟩

end PluginComposition

end MiniatureWarehouse
