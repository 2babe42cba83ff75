import MiniatureWarehouse.Composition.Tightening

/-!
# The isolation of a plugin

A run is isolated when it returns, when every plugin contributes what it contributes alone, and when
a plugin that misbehaves contributes a finding that blocks.  The run guards the call of a plugin,
but not the loop over what it returned; `Contained` says what a plugin may still do, and a run is
isolated exactly when every plugin keeps to it.
-/

namespace MiniatureWarehouse

namespace PluginComposition

variable {μ : Type} (C : PluginComposition μ)

/-! ## The law -/

/-- The plugin raises, or returns what is no sequence, or an item that is not an own finding with a
declared code. -/
def Misbehaves (pluginId : String) : Behaviour μ → Prop
  | .raises _ => True
  | .returnsNone => False
  | .returnsSequence items => ∃ item ∈ items, ∀ f, ¬ C.Admissible pluginId item f
  | .returnsObject _ _ => True

/-- A contribution that holds the plan back. -/
def Blocking (part : List PluginFinding) : Prop := ∃ f ∈ part, f.dispatchEffect ≠ .none

/-- The run returns the contributions that the plugins make alone, and every plugin that misbehaves
blocks. -/
def Isolated (plugins : List (String × Behaviour μ)) : Prop :=
  ∃ parts : List (List PluginFinding), C.runValidatePlan plugins = .ok parts.flatten ∧
    List.Forall₂ (fun p part => C.runValidatePlan [p] = .ok part ∧
      (C.Misbehaves p.1 p.2 → Blocking part)) plugins parts

/-! ## What is contained -/

/-- The item keeps an effect, if it is a finding of the plugin. -/
def Blocks (pluginId : String) (item : PluginItem μ) : Prop :=
  ∀ f, C.Admissible pluginId item f →
    f.dispatchEffect ≠ .none ∧ C.policy.ceilingFor pluginId ≠ .none

/-- The plugin raises an `Exception` that can be shown; or it returns nothing, or a sequence whose
items can all be looked at; or another object, which is true, can be iterated to its end, and yields
an item that blocks. -/
def Contained (pluginId : String) : Behaviour μ → Prop
  | .raises e => e.isException = true ∧ e.repr ≠ none ∧ C.resultType.carries pluginId = true
  | .returnsNone => True
  | .returnsSequence items => ∀ item ∈ items, C.Admits pluginId item
  | .returnsObject truthy iteration => truthy = true ∧ ∃ items, iteration = some (items, false) ∧
      (∀ item ∈ items, C.Admits pluginId item) ∧ ∃ item ∈ items, C.Blocks pluginId item

variable {C} {pluginId : String}

lemma effect_clampFinding {f : PluginFinding} {policy : PluginDispatchPolicy} :
    (clampFinding f policy).dispatchEffect ≠ .none ↔
      f.dispatchEffect ≠ .none ∧ policy.ceilingFor f.pluginId ≠ .none := by
  unfold clampFinding
  dsimp only
  generalize policy.ceilingFor f.pluginId = ceiling
  split_ifs with hle
  · refine ⟨fun h => ⟨h, ?_⟩, And.left⟩
    rintro rfl
    cases heffect : f.dispatchEffect with
    | none => exact h heffect
    | _ =>
      rw [heffect] at hle
      exact absurd hle (by decide)
  · refine ⟨fun h => ⟨?_, h⟩, And.right⟩
    intro heffect
    rw [heffect] at hle
    exact hle (Nat.zero_le _)

lemma admitItem_blocks {item : PluginItem μ} {g : PluginFinding}
    (h : C.admitItem pluginId item = .ok g) :
    g.dispatchEffect ≠ .none ↔ C.Blocks pluginId item := by
  rcases admitItem_cases h with ⟨f, hf, rfl⟩ | ⟨hnot, heffect⟩
  · rw [effect_clampFinding, hf.2.1]
    constructor
    · intro hboth f' hf'
      obtain rfl := Option.some.inj (hf'.1.symm.trans hf.1)
      exact hboth
    · exact fun hblocks => hblocks f hf
  · refine iff_of_true ?_ fun f hf => absurd hf (hnot f)
    rw [heffect]
    nofun

/-- The items of a result block when one of them does. -/
lemma blocking_mapM {items : List (PluginItem μ)} {part : List PluginFinding}
    (h : items.mapM (C.admitItem pluginId) = .ok part) :
    Blocking part ↔ ∃ item ∈ items, C.Blocks pluginId item := by
  constructor
  · rintro ⟨g, hg, heffect⟩
    obtain ⟨item, hitem, hadmit⟩ := (mem_of_mapM_eq_ok h).mp hg
    exact ⟨item, hitem, (admitItem_blocks hadmit).mp heffect⟩
  · rintro ⟨item, hitem, hblocks⟩
    obtain ⟨g, hadmit⟩ := exists_mapM_eq_ok.mp ⟨part, h⟩ item hitem
    exact ⟨g, (mem_of_mapM_eq_ok h).mpr ⟨item, hitem, hadmit⟩,
      (admitItem_blocks hadmit).mpr hblocks⟩

/-- The condition on one plugin: it contributes, and blocks if it misbehaves. -/
lemma contained_iff (hmode : C.failureMode = .isolatePlugin) {b : Behaviour μ} :
    (∃ part, C.contribute pluginId b = .ok part ∧ (C.Misbehaves pluginId b → Blocking part)) ↔
      C.Contained pluginId b := by
  cases b with
  | raises e =>
    refine Iff.trans ?_ (exists_onRaise hmode)
    refine ⟨fun ⟨part, h, _⟩ => ⟨part, h⟩, fun ⟨part, h⟩ => ⟨part, h, fun _ => ?_⟩⟩
    obtain ⟨-, text, g, -, hcrash, rfl⟩ := onRaise_spec h
    refine ⟨g, List.mem_singleton_self g, ?_⟩
    rw [effect_of_fromParts hcrash]
    nofun
  | returnsNone => exact iff_of_true ⟨[], rfl, False.elim⟩ trivial
  | returnsSequence items =>
    constructor
    · rintro ⟨part, h, -⟩
      exact (exists_admitAll.mp ⟨part, h⟩).1
    · intro hadmits
      obtain ⟨part, h⟩ := exists_admitAll.mpr ⟨hadmits, rfl⟩
      refine ⟨part, h, ?_⟩
      rintro ⟨item, hitem, hnot⟩
      exact (blocking_mapM (admitAll_eq_ok.mp h).1).mpr
        ⟨item, hitem, fun f hf => absurd hf (hnot f)⟩
  | returnsObject truthy iteration =>
    cases truthy with
    | false =>
      -- a falsy object is taken for no result, so that nothing blocks
      refine iff_of_false ?_ fun h => Bool.false_ne_true h.1
      rintro ⟨part, h, hblocking⟩
      obtain rfl : [] = part := Except.ok.inj h
      obtain ⟨f, hf, -⟩ := hblocking trivial
      exact absurd hf List.not_mem_nil
    | true =>
      cases iteration with
      | none =>
        refine iff_of_false ?_ nofun
        rintro ⟨part, h, -⟩
        cases h
      | some iteration =>
        obtain ⟨items, fails⟩ := iteration
        constructor
        · rintro ⟨part, h, hblocking⟩
          obtain ⟨hmapM, rfl⟩ := admitAll_eq_ok.mp h
          exact ⟨rfl, items, rfl, (exists_admitAll.mp ⟨part, h⟩).1,
            (blocking_mapM hmapM).mp (hblocking trivial)⟩
        · rintro ⟨-, items', heq, hadmits, hblocks⟩
          obtain ⟨rfl, rfl⟩ := Prod.mk.inj (Option.some.inj heq)
          obtain ⟨part, h⟩ := exists_admitAll.mpr ⟨hadmits, rfl⟩
          exact ⟨part, h, fun _ => (blocking_mapM (admitAll_eq_ok.mp h).1).mpr hblocks⟩

/-! ## Runs -/

lemma runValidatePlan_cons {p : String × Behaviour μ} {plugins : List (String × Behaviour μ)}
    {findings : List PluginFinding} :
    C.runValidatePlan (p :: plugins) = .ok findings ↔
      ∃ part rest, C.contribute p.1 p.2 = .ok part ∧ C.runValidatePlan plugins = .ok rest ∧
        part ++ rest = findings := by
  unfold runValidatePlan
  rw [List.mapM_cons, exceptMap_eq_ok]
  constructor
  · rintro ⟨parts, h, rfl⟩
    obtain ⟨part, hpart, h⟩ := exceptBind_eq_ok.mp h
    obtain ⟨rest, hrest, h⟩ := exceptBind_eq_ok.mp h
    obtain rfl : part :: rest = parts := Except.ok.inj h
    exact ⟨part, rest.flatten, hpart, exceptMap_eq_ok.mpr ⟨rest, hrest, rfl⟩, rfl⟩
  · rintro ⟨part, rest, hpart, hrest, rfl⟩
    obtain ⟨parts, hparts, rfl⟩ := exceptMap_eq_ok.mp hrest
    exact ⟨part :: parts,
      exceptBind_eq_ok.mpr ⟨part, hpart, exceptBind_eq_ok.mpr ⟨parts, hparts, rfl⟩⟩, rfl⟩

lemma runValidatePlan_singleton {p : String × Behaviour μ} {part : List PluginFinding} :
    C.runValidatePlan [p] = .ok part ↔ C.contribute p.1 p.2 = .ok part := by
  rw [runValidatePlan_cons]
  constructor
  · rintro ⟨part', rest, h, hrest, rfl⟩
    obtain rfl : [] = rest := Except.ok.inj hrest
    rw [List.append_nil]
    exact h
  · exact fun h => ⟨part, [], h, rfl, List.append_nil part⟩

/-- A plugin joins an isolated run exactly when it is isolated itself. -/
lemma isolated_cons {p : String × Behaviour μ} {plugins : List (String × Behaviour μ)} :
    C.Isolated (p :: plugins) ↔
      (∃ part, C.contribute p.1 p.2 = .ok part ∧ (C.Misbehaves p.1 p.2 → Blocking part)) ∧
        C.Isolated plugins := by
  constructor
  · rintro ⟨parts, hrun, hall⟩
    cases hall with
    | @cons _ part _ parts halone hrest =>
      have hpart := runValidatePlan_singleton.mp halone.1
      obtain ⟨part', rest, hpart', hplugins, happend⟩ := runValidatePlan_cons.mp hrun
      obtain rfl := Except.ok.inj (hpart.symm.trans hpart')
      rw [List.append_cancel_left happend] at hplugins
      exact ⟨⟨part, hpart, halone.2⟩, parts, hplugins, hrest⟩
  · rintro ⟨⟨part, hpart, hblocking⟩, parts, hplugins, hall⟩
    exact ⟨part :: parts, runValidatePlan_cons.mpr ⟨part, parts.flatten, hpart, hplugins, rfl⟩,
      .cons ⟨runValidatePlan_singleton.mpr hpart, hblocking⟩ hall⟩

lemma isolated_iff_forall {plugins : List (String × Behaviour μ)} :
    C.Isolated plugins ↔ ∀ p ∈ plugins, ∃ part, C.contribute p.1 p.2 = .ok part ∧
      (C.Misbehaves p.1 p.2 → Blocking part) := by
  induction plugins with
  | nil => exact iff_of_true ⟨[], rfl, .nil⟩ fun _ hp => absurd hp List.not_mem_nil
  | cons p plugins ih => rw [isolated_cons, ih, List.forall_mem_cons]

/-- **Specification of the isolation.**  With the failure mode that isolates, a run is isolated
exactly when every plugin is contained. -/
theorem isolated_iff (hmode : C.failureMode = .isolatePlugin)
    (plugins : List (String × Behaviour μ)) :
    C.Isolated plugins ↔ ∀ p ∈ plugins, C.Contained p.1 p.2 := by
  rw [isolated_iff_forall]
  exact forall₂_congr fun p _ => contained_iff hmode

end PluginComposition

theorem isolated_smokePlugins : siteComposition.Isolated smokePlugins := by
  refine (PluginComposition.isolated_iff rfl smokePlugins).mpr fun p hp => ?_
  obtain rfl := List.mem_singleton.mp hp
  intro item hitem
  obtain rfl := List.mem_singleton.mp hitem
  exact .inl ⟨smokeSeen, rfl, rfl, rfl⟩

/-! ### A plugin that fails late -/

/-- The first plugin is written as a generator, which raises when it is advanced. -/
def lazyPlugins : List (String × Behaviour Empty) :=
  [("l3.zone", .returnsObject true (some ([], true))),
    ("l3.smoke", .returnsSequence [.finding smokeSeen])]

/-- The exception escapes, and the report of the other plugin is lost. -/
theorem not_isolated_lazyPlugins :
    (∀ p ∈ lazyPlugins, siteComposition.registry.isRegistered p.1 = true) ∧
      (lazyPlugins.map Prod.fst).Nodup ∧ siteComposition.failureMode = .isolatePlugin ∧
      siteComposition.runValidatePlan lazyPlugins = .error .escaped ∧
      ¬ siteComposition.Isolated lazyPlugins := by
  refine ⟨by decide, by decide, rfl, rfl, ?_⟩
  rintro ⟨parts, hrun, -⟩
  cases hrun

/-! ## Plugins that keep to the hook -/

/-- The plugin crashes with an `Exception`, returns nothing, or returns a sequence, as the hook
asks. -/
def Behaviour.KeepsToHook {μ : Type} : Behaviour μ → Prop
  | .raises e => e.isException = true ∧ e.repr ≠ none
  | .returnsNone => True
  | .returnsSequence items => PluginItem.broken ∉ items
  | .returnsObject _ _ => False

namespace PluginComposition

variable {μ : Type} {C : PluginComposition μ}

/-- A registered plugin has an id that the default finding type carries. -/
lemma carries_of_isRegistered {pluginId : String} (htype : C.resultType = .structured)
    (h : C.registry.isRegistered pluginId = true) : C.resultType.carries pluginId = true := by
  rw [htype]
  exact PluginCodeRegistry.matches_of_isRegistered h

/-- With the default finding type, registered plugins that keep to the hook are isolated, whatever
they report and however they crash. -/
theorem isolated_of_keepsToHook (hmode : C.failureMode = .isolatePlugin)
    (htype : C.resultType = .structured) {plugins : List (String × Behaviour μ)}
    (hregistered : ∀ p ∈ plugins, C.registry.isRegistered p.1 = true)
    (hkeeps : ∀ p ∈ plugins, p.2.KeepsToHook) : C.Isolated plugins := by
  refine isolated_iff_forall.mpr fun p hp => (contained_iff hmode).mpr ?_
  have hcarries := carries_of_isRegistered htype (hregistered p hp)
  have hkeep := hkeeps p hp
  obtain ⟨pluginId, b⟩ := p
  cases b with
  | raises e => exact ⟨hkeep.1, hkeep.2, hcarries⟩
  | returnsNone => trivial
  | returnsSequence items =>
    intro item hitem
    refine .inr ⟨?_, hcarries⟩
    rintro rfl
    exact hkeep hitem
  | returnsObject truthy iteration => exact hkeep.elim

end PluginComposition

end MiniatureWarehouse
