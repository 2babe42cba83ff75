import MiniatureWarehouse.Planning.Handoff

/-!
# No forbidden name reaches a draft

The handoff extracts a plan from its envelope, checks the version, scans the names of the document
and only then has a draft built from it.  The data model drops the fields it does not know, so a
forbidden name that the scan missed would be gone from the draft without a trace.

`Occurs` says declaratively that a name is a key of some object of a value, at any depth and through
arrays.  The scan collects exactly the forbidden names that occur (`mem_scanForbidden`), and a draft
is built from a clean document only.
-/

namespace MiniatureWarehouse

namespace Handoff

variable {α : Type*}

/-! ## Names of a document -/

/-- A name is a key of some object of the value. -/
inductive Occurs (name : String) : PyVal α → Prop
  | key {es : List (String × PyVal α)} {v : PyVal α} (h : (name, v) ∈ es) : Occurs name (.dict es)
  | value {es : List (String × PyVal α)} {k : String} {v : PyVal α} (h : (k, v) ∈ es)
      (hv : Occurs name v) : Occurs name (.dict es)
  | item {vs : List (PyVal α)} {v : PyVal α} (h : v ∈ vs) (hv : Occurs name v) :
      Occurs name (.list vs)

/-- A name that contains a forbidden text, in whatever case. -/
def Forbidden (name : String) : Prop :=
  ∃ rule ∈ forbiddenKeyRules, ∃ sub ∈ rule.2, sub.toList <:+: name.toList.map Char.toLower

lemma contains_eq_true {s sub : List Char} : Text.contains s sub = true ↔ sub <:+: s := by
  unfold Text.contains
  rw [List.any_eq_true, List.infix_iff_prefix_suffix]
  constructor
  · rintro ⟨t, ht, hprefix⟩
    exact ⟨t, List.isPrefixOf_iff_prefix.mp hprefix, (List.mem_tails t s).mp ht⟩
  · rintro ⟨t, hprefix, ht⟩
    exact ⟨t, (List.mem_tails t s).mpr ht, List.isPrefixOf_iff_prefix.mpr hprefix⟩

/-- Some rule gives a reason for every forbidden name, and for no other one. -/
lemma forbiddenReason_isSome {name : String} :
    (∃ reason, forbiddenReason name = some reason) ↔ Forbidden name := by
  unfold forbiddenReason Forbidden
  dsimp only
  constructor
  · rintro ⟨reason, h⟩
    obtain ⟨rule, hrule, -⟩ := Option.map_eq_some_iff.mp h
    have hany := List.find?_some (p := fun rule : String × List String =>
      rule.2.any fun sub => Text.contains (name.toList.map Char.toLower) sub.toList) hrule
    obtain ⟨sub, hsub, hcontains⟩ := List.any_eq_true.mp hany
    exact ⟨rule, List.mem_of_find?_eq_some hrule, sub, hsub, contains_eq_true.mp hcontains⟩
  · rintro ⟨rule, hrule, sub, hsub, hinfix⟩
    have hany : (rule.2.any fun sub =>
        Text.contains (name.toList.map Char.toLower) sub.toList) = true :=
      List.any_eq_true.mpr ⟨sub, hsub, contains_eq_true.mpr hinfix⟩
    have hsome : (forbiddenKeyRules.find? fun rule => rule.2.any fun sub =>
        Text.contains (name.toList.map Char.toLower) sub.toList).isSome = true :=
      List.find?_isSome.mpr ⟨rule, hrule, hany⟩
    obtain ⟨found, hfound⟩ := Option.isSome_iff_exists.mp hsome
    exact ⟨found.1, by rw [hfound]; rfl⟩

/-! ## The scan -/

mutual

/-- **The scan finds the forbidden names that occur**, and nothing else. -/
theorem mem_scanForbidden (reason name : String) (v : PyVal α) :
    (reason, name) ∈ scanForbidden v ↔ forbiddenReason name = some reason ∧ Occurs name v := by
  match v with
  | .null | .bool _ | .int _ | .float _ | .str _ =>
    constructor
    · intro h
      cases h
    · rintro ⟨-, hoccurs⟩
      cases hoccurs
  | .list vs =>
    rw [scanForbidden, mem_scanForbiddenList]
    constructor
    · rintro ⟨hreason, v, hv, hoccurs⟩
      exact ⟨hreason, .item hv hoccurs⟩
    · rintro ⟨hreason, hoccurs⟩
      cases hoccurs with
      | item hv hoccurs => exact ⟨hreason, _, hv, hoccurs⟩
  | .dict es =>
    rw [scanForbidden, mem_scanForbiddenEntries]
    constructor
    · rintro ⟨hreason, ⟨k, v⟩, he, rfl | hoccurs⟩
      · exact ⟨hreason, .key he⟩
      · exact ⟨hreason, .value he hoccurs⟩
    · rintro ⟨hreason, hoccurs⟩
      cases hoccurs with
      | key he => exact ⟨hreason, _, he, .inl rfl⟩
      | value he hoccurs => exact ⟨hreason, _, he, .inr hoccurs⟩

lemma mem_scanForbiddenList (reason name : String) (vs : List (PyVal α)) :
    (reason, name) ∈ scanForbiddenList vs ↔
      forbiddenReason name = some reason ∧ ∃ v ∈ vs, Occurs name v := by
  match vs with
  | [] => simp [scanForbiddenList]
  | v :: vs =>
    have hv := mem_scanForbidden reason name v
    have hvs := mem_scanForbiddenList reason name vs
    rw [scanForbiddenList, List.mem_append, hv, hvs, ← and_or_left, List.exists_mem_cons_iff]

lemma mem_scanForbiddenEntries (reason name : String) (es : List (String × PyVal α)) :
    (reason, name) ∈ scanForbiddenEntries es ↔
      forbiddenReason name = some reason ∧ ∃ e ∈ es, e.1 = name ∨ Occurs name e.2 := by
  match es with
  | [] => simp [scanForbiddenEntries]
  | (k, v) :: es =>
    have hv := mem_scanForbidden reason name v
    have hes := mem_scanForbiddenEntries reason name es
    rw [scanForbiddenEntries, List.mem_append, List.mem_append, hv, hes, List.exists_mem_cons_iff,
      and_or_left, and_or_left]
    refine or_congr (or_congr ?_ Iff.rfl) Iff.rfl
    -- the name of the entry itself
    cases hk : forbiddenReason k with
    | none =>
      constructor
      · intro h
        cases h
      · rintro ⟨hreason, rfl⟩
        rw [hk] at hreason
        cases hreason
    | some found =>
      rw [List.mem_singleton, Prod.mk.injEq]
      constructor
      · rintro ⟨rfl, rfl⟩
        exact ⟨hk, rfl⟩
      · rintro ⟨hreason, rfl⟩
        rw [hk] at hreason
        exact ⟨(Option.some.inj hreason).symm, rfl⟩

end

/-! ## Clean documents -/

/-- A document the handoff may build a draft from. -/
structure Clean (plan : List (String × PyVal α)) : Prop where
  version : Dict.find plan "schema_version" = some (.str roboticsPlanDraftVersion)
  names : ∀ name, Occurs name (.dict plan) → ¬ Forbidden name

lemma rejectUnknownSchemaVersion_ok {plan : List (String × PyVal α)} :
    rejectUnknownSchemaVersion plan = .ok () ↔
      Dict.find plan "schema_version" = some (.str roboticsPlanDraftVersion) := by
  constructor
  · intro h
    unfold rejectUnknownSchemaVersion at h
    split at h
    · rename_i version hversion
      split_ifs at h with hknown
      rw [hversion, hknown]
    · cases h
    · cases h
    · cases h
  · intro h
    unfold rejectUnknownSchemaVersion
    rw [h]
    exact if_pos rfl

lemma rejectForbiddenFields_ok {plan : List (String × PyVal α)} :
    rejectForbiddenFields plan = .ok () ↔ ∀ name, Occurs name (.dict plan) → ¬ Forbidden name := by
  have hempty : (scanForbiddenEntries plan).isEmpty = true ↔
      ∀ name, Occurs name (.dict plan) → ¬ Forbidden name := by
    rw [List.isEmpty_iff, List.eq_nil_iff_forall_not_mem]
    constructor
    · intro hnone name hoccurs hforbidden
      obtain ⟨reason, hreason⟩ := forbiddenReason_isSome.mpr hforbidden
      exact hnone (reason, name) ((mem_scanForbidden reason name (.dict plan)).mpr
        ⟨hreason, hoccurs⟩)
    · rintro hclean ⟨reason, name⟩ hmem
      obtain ⟨hreason, hoccurs⟩ := (mem_scanForbidden reason name (.dict plan)).mp hmem
      exact hclean name hoccurs (forbiddenReason_isSome.mp ⟨reason, hreason⟩)
  rw [← hempty]
  unfold rejectForbiddenFields
  cases (scanForbiddenEntries plan).isEmpty with
  | true => exact ⟨fun _ => rfl, fun _ => rfl⟩
  | false => simp

/-- **The handoff lets no forbidden name through.**  A draft is built from the document that was
extracted from the envelope only if its version is the known one and no name of it, at any depth,
contains a forbidden text in whatever case.  A document that fails this is rejected, and so is an
envelope without a document. -/
theorem draft_of_clean_document (scan : JsonScan α) (model : DraftModel α)
    (payload : List (String × PyVal α)) :
    (∀ draft, toRoboticsPlanDraft scan model payload = .ok draft →
      ∃ plan, extractPlanContent scan payload = .ok plan ∧ Clean plan ∧
        model.validate plan = some draft) ∧
    (∀ plan, extractPlanContent scan payload = .ok plan → ¬ Clean plan →
      ∃ e, toRoboticsPlanDraft scan model payload = .error e) ∧
    ∀ e, extractPlanContent scan payload = .error e →
      toRoboticsPlanDraft scan model payload = .error e := by
  have hdraft : ∀ draft, toRoboticsPlanDraft scan model payload = .ok draft →
      ∃ plan, extractPlanContent scan payload = .ok plan ∧ Clean plan ∧
        model.validate plan = some draft := by
    intro draft h
    obtain ⟨plan, hplan, h⟩ := exceptBind_eq_ok.mp h
    obtain ⟨_, hversion, h⟩ := exceptBind_eq_ok.mp h
    obtain ⟨_, hnames, h⟩ := exceptBind_eq_ok.mp h
    refine ⟨plan, hplan, ⟨rejectUnknownSchemaVersion_ok.mp hversion,
      rejectForbiddenFields_ok.mp hnames⟩, ?_⟩
    unfold modelValidate at h
    split at h
    · rename_i read hread
      rw [hread, Except.ok.inj h]
    · cases h
  refine ⟨hdraft, ?_, ?_⟩
  · intro plan hplan hdirty
    cases hresult : toRoboticsPlanDraft scan model payload with
    | error e => exact ⟨e, rfl⟩
    | ok draft =>
      obtain ⟨other, hother, hclean, -⟩ := hdraft draft hresult
      rw [hplan] at hother
      exact absurd (Except.ok.inj hother ▸ hclean) hdirty
  · intro e he
    unfold toRoboticsPlanDraft
    rw [he]
    rfl

end Handoff

end MiniatureWarehouse
