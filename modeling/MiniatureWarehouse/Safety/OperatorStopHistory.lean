import MiniatureWarehouse.Safety.OperatorStop

/-!
# The operator stop over a history of payloads

Any participant may write to the channel of the operator stop, so the latch has to make sense of
every sequence of texts: engaged exactly when the last text that is an object with one of the two
spellings says *engage*, and no text may raise out of the callback.

The latch is a register that most payloads leave alone (`feed_eq`), so the value after a history
is the last value written.  Totality is another matter.  The decoder absorbs the `ValueError` of
the parser and lets its `RecursionError` out, where the decoder of the stop states in the driver
catches both; a text nested past the limit of the parser then raises through the callback of the
node.  `handled_iff` determines exactly which histories are handled.
-/

namespace MiniatureWarehouse

namespace OperatorStopLatch

variable {α : Type*} (scan : JsonScan α)

/-- The latch as a machine fed with payloads. -/
def machine : Machine Bool String (Except PyErr (Option OperatorAction)) where
  step := feed scan

/-- The spelling of an action. -/
def spelling : OperatorAction → String
  | .engage => "engage"
  | .clear => "clear"

/-- The payload decodes to an object whose `action` is exactly the spelling. -/
def Asks (raw : String) (action : OperatorAction) : Prop :=
  ∃ payload, scan.loads raw = .ok payload ∧
    payload.get? "action" = some (.str (spelling action))

/-- What an accepted action writes into the latch. -/
def written (result : Except PyErr (Option OperatorAction)) : Option Bool :=
  result.toOption.join.map fun action => decide (action = .engage)

/-! ## One payload -/

/-- A payload writes its action into the latch, or leaves it alone. -/
lemma feed_eq (engaged : Bool) (raw : String) :
    feed scan engaged raw = ((written (parseOperatorStopAction scan raw)).getD engaged,
      parseOperatorStopAction scan raw) := by
  by_cases hengage : parseOperatorStopAction scan raw = .ok (some .engage)
  · simp [feed, hengage, written, Except.toOption]
  by_cases hclear : parseOperatorStopAction scan raw = .ok (some .clear)
  · simp [feed, hclear, written, Except.toOption]
  have hignored := EmergencyGuardian.feed_ignored hengage hclear engaged
  rw [hignored]
  cases hparse : parseOperatorStopAction scan raw with
  | error e => rfl
  | ok action =>
    cases action with
    | none => rfl
    | some action =>
      rw [hparse] at hengage hclear
      cases action with
      | engage => exact absurd rfl hengage
      | clear => exact absurd rfl hclear

/-- An action is accepted exactly when the payload asks for it. -/
lemma parse_eq_some_iff {raw : String} {action : OperatorAction} :
    parseOperatorStopAction scan raw = .ok (some action) ↔ Asks scan raw action := by
  unfold parseOperatorStopAction Asks
  cases hloads : scan.loads raw with
  | error e => cases e <;> simp
  | ok payload =>
    simp only [Except.ok.injEq, exists_eq_left']
    split
    · next hget => cases action <;> simp [hget, spelling]
    · next hget => cases action <;> simp [hget, spelling]
    · next hengage hclear =>
      cases action with
      | engage => simpa [spelling] using hengage
      | clear => simpa [spelling] using hclear

/-- The parser raises only what it was not asked to catch. -/
lemma parse_eq_error_iff {raw : String} {e : PyErr} :
    parseOperatorStopAction scan raw = .error e ↔
      scan raw = .error .recursionError ∧ e = .recursionError := by
  unfold parseOperatorStopAction JsonScan.loads
  cases hscan : scan raw with
  | error err => cases err <;> simp [Except.map, eq_comm]
  | ok payload =>
    simp only [Except.map, reduceCtorEq, false_and, iff_false]
    split <;> simp

/-- A payload writes the latch exactly when it asks for an action. -/
lemma written_parse_eq_some_iff {raw : String} {engaged : Bool} :
    written (parseOperatorStopAction scan raw) = some engaged ↔
      Asks scan raw (if engaged then .engage else .clear) := by
  rw [← parse_eq_some_iff, written]
  cases hparse : parseOperatorStopAction scan raw with
  | error e => simp [Except.toOption]
  | ok action =>
    cases action with
    | none => simp [Except.toOption]
    | some action => cases action <;> cases engaged <;> simp [Except.toOption]

/-! ## A history of payloads -/

/-- The last payload that asks for an action asks for an engage. -/
def LastAsksEngage (payloads : List String) : Prop :=
  ∃ before raw after, payloads = before ++ raw :: after ∧ Asks scan raw .engage ∧
    ∀ later ∈ after, ∀ action, ¬ Asks scan later action

/-- **The latch is the last action asked for**, whatever raised in between. -/
lemma run_machine_iff (payloads : List String) :
    (machine scan).run false payloads = true ↔ LastAsksEngage scan payloads := by
  have hstep : ∀ engaged raw, ((machine scan).step engaged raw).1 =
      (written (parseOperatorStopAction scan raw)).getD engaged :=
    fun engaged raw => congrArg Prod.fst (feed_eq scan engaged raw)
  have hsome : ∀ o : Option Bool, o.getD false = true ↔ o = some true := by decide
  rw [Machine.run_of_writes hstep, hsome, List.getLast?_eq_some_iff]
  constructor
  · rintro ⟨earlier, hwritten⟩
    obtain ⟨before, rest, rfl, -, hrest⟩ := List.filterMap_eq_append_iff.mp hwritten
    obtain ⟨silent, raw, after, rfl, -, hraw, hafter⟩ := List.filterMap_eq_cons_iff.mp hrest
    refine ⟨before ++ silent, raw, after, (List.append_assoc ..).symm,
      (written_parse_eq_some_iff scan).mp hraw, fun later hlater action hasks => ?_⟩
    have hnone := List.filterMap_eq_nil_iff.mp hafter later hlater
    rw [(parse_eq_some_iff scan).mpr hasks] at hnone
    cases hnone
  · rintro ⟨before, raw, after, rfl, hraw, hafter⟩
    refine ⟨before.filterMap fun raw => written (parseOperatorStopAction scan raw), ?_⟩
    have hsilent : (after.filterMap fun raw => written (parseOperatorStopAction scan raw)) = [] := by
      rw [List.filterMap_eq_nil_iff]
      intro later hlater
      by_contra hwrites
      obtain ⟨engaged, hengaged⟩ := Option.ne_none_iff_exists'.mp hwrites
      exact hafter later hlater _ ((written_parse_eq_some_iff scan).mp hengaged)
    have hwrite : written (parseOperatorStopAction scan raw) = some true :=
      (written_parse_eq_some_iff scan).mpr hraw
    simp only [List.filterMap_append, List.filterMap_cons, hwrite, hsilent]

/-- A payload raises out of the latch exactly when the parser gives up on its nesting. -/
lemma feed_ok_iff (engaged : Bool) (raw : String) :
    (∃ action, (feed scan engaged raw).2 = .ok action) ↔ scan raw ≠ .error .recursionError := by
  rw [feed_eq]
  constructor
  · rintro ⟨action, haction⟩ hscan
    have herror := (parse_eq_error_iff scan).mpr ⟨hscan, rfl⟩
    rw [herror] at haction
    cases haction
  · intro hscan
    cases hparse : parseOperatorStopAction scan raw with
    | error e => exact absurd ((parse_eq_error_iff scan).mp hparse).1 hscan
    | ok action => exact ⟨action, rfl⟩

/-- No payload of a history raises out of the latch exactly when the parser never gives up. -/
lemma outputs_ok_iff (engaged : Bool) (payloads : List String) :
    (∀ result ∈ (machine scan).outputs engaged payloads, ∃ action, result = .ok action) ↔
      ∀ raw ∈ payloads, scan raw ≠ .error .recursionError := by
  induction payloads generalizing engaged with
  | nil => simp
  | cons raw payloads ih =>
    rw [Machine.outputs_cons, List.forall_mem_cons, List.forall_mem_cons, ih]
    exact and_congr_left fun _ => feed_ok_iff scan engaged raw

/-! ## The node -/

section Node

variable [Field α] [LinearOrder α] [IsStrictOrderedRing α] [FloorRing α]
  (F : FloatFormat α) (L : MathLib α) (cfg : EmergencyGuardian.GuardianConfig α)
  (parseTerrainCoverage : String → Option (TerrainCoverage α))

/-- What the channel owes its readers on a history of payloads: no payload raises out of a fresh
latch, the latch ends as the last action asked for, and no payload raises out of the callback of
the node, whatever state it finds the node in. -/
def Handled (payloads : List String) : Prop :=
  (∀ result ∈ (machine scan).outputs false payloads, ∃ action, result = .ok action) ∧
  ((machine scan).run false payloads = true ↔ LastAsksEngage scan payloads) ∧
  ∀ (g : EmergencyGuardian.Guardian α), ∀ raw ∈ payloads,
    ((EmergencyGuardian.node F L cfg scan parseTerrainCoverage).step g
      (.onOperatorStop raw)).2.2 = .ok ()

/-- **Exactly the histories within the nesting limit are handled.** -/
theorem handled_iff (payloads : List String) :
    Handled scan F L cfg parseTerrainCoverage payloads ↔
      ∀ raw ∈ payloads, scan raw ≠ .error .recursionError := by
  constructor
  · rintro ⟨houtputs, -, -⟩
    exact (outputs_ok_iff scan false payloads).mp houtputs
  · intro hscan
    refine ⟨(outputs_ok_iff scan false payloads).mpr hscan, run_machine_iff scan payloads, ?_⟩
    intro g raw hraw
    obtain ⟨action, haction⟩ := (feed_ok_iff scan g.opEngaged raw).mpr (hscan raw hraw)
    simp only [EmergencyGuardian.node, haction, Except.map]

end Node

/-! ### A text nested too deeply -/

/-- Opening brackets far past the recursion limit of the parser. -/
def deepText : String := String.ofList (List.replicate 100000 '[')

/-- A parser that gives up on this one text, and finds no document in any other. -/
def deepScan : JsonScan ℚ := fun s =>
  if s = deepText then .error .recursionError else .error .valueError

/-- An order, a text that is none and a release of the stop: all three are handled. -/
theorem handled_plain_texts :
    Handled deepScan (.exact ℚ) .rational EmergencyGuardian.plainGuardian (fun _ => none)
      ["engage", "later", "release"] := by
  refine (handled_iff deepScan (.exact ℚ) .rational EmergencyGuardian.plainGuardian
    (fun _ => none) ["engage", "later", "release"]).mpr fun raw hraw => ?_
  have hshort : raw.length ≤ 7 := by
    revert raw
    decide
  have hother : raw ≠ deepText := by
    rintro rfl
    unfold deepText at hshort
    rw [String.length_ofList, List.length_replicate] at hshort
    omega
  unfold deepScan
  rw [if_neg hother]
  exact fun heq => by cases heq

/-- The deep text raises out of the latch and takes the callback of the node with it. -/
theorem deepText_not_handled :
    ¬ Handled deepScan (.exact ℚ) .rational EmergencyGuardian.plainGuardian (fun _ => none)
      [deepText] := by
  rintro ⟨houtputs, -, -⟩
  refine (outputs_ok_iff deepScan false [deepText]).mp houtputs deepText
    (List.mem_singleton_self _) ?_
  exact if_pos rfl

end OperatorStopLatch

end MiniatureWarehouse
