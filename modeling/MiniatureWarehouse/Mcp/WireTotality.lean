import MiniatureWarehouse.Mcp.GenerationGuard

/-!
# Does the wire entry always answer?

`dispatch` is meant to answer every call with a status dictionary, and catches a `TypeError` to
that end.  What escapes it is any other exception, and the arguments of a call and the state file
reach operations that raise others: a text method on a task id that is no text, a lookup in a
state file that is no mapping, a timestamp the clock cannot convert.

`Escapes` is the list of these inputs, tool by tool, and `dispatch_answers_iff` says that it is
complete: a call after any run is answered, and leaves the gate as it was unless it is answered
with ok, exactly when it is not on the list.
-/

namespace MiniatureWarehouse

namespace Wire

/-! ## Checks that raise -/

section Raising

variable {β γ : Type}

/-- The check raises something `dispatch` does not catch. -/
def Raises (c : Check β) : Prop := ∃ e, c = .error (.raised e) ∧ e ≠ .typeError

lemma not_raises_ok (b : β) : ¬ Raises (.ok b : Check β) := by
  rintro ⟨e, h, -⟩
  cases h

lemma not_raises_reason (r : RejectReason) : ¬ Raises (.error (.reason r) : Check β) := by
  rintro ⟨e, h, -⟩
  cases h

lemma not_raises_typeError : ¬ Raises (.error (.raised .typeError) : Check β) := by
  rintro ⟨e, h, he⟩
  cases h
  exact he rfl

lemma not_raises_refuseIf (p : Bool) (r : RejectReason) : ¬ Raises (refuseIf p r) := by
  cases p with
  | true => exact not_raises_reason r
  | false => exact not_raises_ok ()

/-- A sequence raises where one of its parts does. -/
lemma raises_bind {c : Check β} {f : β → Check γ} :
    Raises (c.bind f) ↔ Raises c ∨ ∃ b, c = .ok b ∧ Raises (f b) := by
  cases c with
  | error refusal =>
    constructor
    · rintro ⟨e, h, he⟩
      exact .inl ⟨e, by rw [← Except.error.inj h], he⟩
    · rintro (⟨e, h, he⟩ | ⟨b, h, -⟩)
      · exact ⟨e, by rw [Except.error.inj h]; rfl, he⟩
      · cases h
  | ok b =>
    constructor
    · intro h
      exact .inr ⟨b, rfl, h⟩
    · rintro (h | ⟨b', h, hraises⟩)
      · exact absurd h (not_raises_ok b)
      · rw [← Except.ok.inj h] at hraises
        exact hraises

/-- After a check that raises nothing, what counts is the rest of the sequence. -/
lemma raises_bind_of_not {c : Check β} {f : β → Check γ} (hc : ¬ Raises c) :
    Raises (c.bind f) ↔ ∃ b, c = .ok b ∧ Raises (f b) := by
  rw [raises_bind]
  exact ⟨fun h => h.resolve_left hc, .inr⟩

/-- A sequence whose last check raises nothing raises in its first part. -/
lemma raises_bind_left {c : Check β} {f : β → Check γ} (hf : ∀ b, c = .ok b → ¬ Raises (f b)) :
    Raises (c.bind f) ↔ Raises c := by
  rw [raises_bind]
  constructor
  · rintro (h | ⟨b, hb, hraises⟩)
    · exact h
    · exact absurd hraises (hf b hb)
  · exact .inl

lemma raises_map {c : Check β} {f : β → γ} : Raises (c.map f) ↔ Raises c := by
  have hbind : c.map f = c.bind fun b => .ok (f b) := by cases c <;> rfl
  rw [hbind, raises_bind_left fun _ _ => not_raises_ok _]

variable {α : Type}

lemma raises_lookup (mapping : Fields α) (key : PyVal α) : ¬ Raises (lookup mapping key) := by
  cases key with
  | str => exact not_raises_ok _
  | list | dict => exact not_raises_typeError
  | null | bool | int | float => exact not_raises_ok _

lemma lookup_eq_ok (mapping : Fields α) (key : PyVal α) :
    (∃ v, lookup mapping key = .ok v) ↔ hashable key = true := by
  cases key with
  | str => exact iff_of_true ⟨_, rfl⟩ rfl
  | list | dict => exact iff_of_false (by rintro ⟨v, h⟩; cases h) Bool.false_ne_true
  | null | bool | int | float => exact iff_of_true ⟨_, rfl⟩ rfl

end Raising

/-! ## What the state file can raise -/

section State

variable {α : Type} [Field α] [LinearOrder α]

/-- `v or {}` is a mapping. -/
def isMapping (v : PyVal α) : Bool :=
  match orEmpty v with
  | .dict _ => true
  | _ => false

/-- The conversion of the timestamp raises something `_snapshot_ts` and `dispatch` do not catch. -/
def TimestampRaises (iso : IsoTimestamp α) (timestamp : Option (PyVal α)) : Prop :=
  ∃ ts e, timestamp = some (.str ts) ∧ iso ts = some (.error e) ∧ e ≠ .valueError ∧ e ≠ .typeError

/-- The state file takes a call for this robot down: reading it raises, it is no mapping, its
robots are none, or its timestamp cannot be converted. -/
def StateRaises (iso : IsoTimestamp α) (r : Reading α) (robot : PyVal α) : Prop :=
  match r.state with
  | .error e => e ≠ .typeError
  | .ok v =>
    match orEmpty v with
    | .dict state =>
      timestampIsCorrupt iso (Dict.find state "timestamp") = false ∧
        (isMapping ((Dict.find state "robots").getD .null) = false ∨
          hashable robot = true ∧ TimestampRaises iso (Dict.find state "timestamp"))
    | _ => True

/-- The state file takes a status call down: reading it raises, or it is no mapping. -/
def TopRaises (r : Reading α) : Prop :=
  match r.state with
  | .error e => e ≠ .typeError
  | .ok v => isMapping v = false

/-- A value is a mapping once `or {}` is applied, or looking something up in it raises. -/
lemma mappingOrEmpty_cases (v : PyVal α) :
    (∃ es, orEmpty v = .dict es ∧ mappingOrEmpty v = .ok es) ∨
      (isMapping v = false ∧ mappingOrEmpty v = .error (.raised .attributeError)) := by
  cases v with
  | null => exact .inl ⟨[], rfl, rfl⟩
  | bool b =>
    cases b with
    | false => exact .inl ⟨[], rfl, rfl⟩
    | true => exact .inr ⟨rfl, rfl⟩
  | int i =>
    rcases i with (_ | n) | n
    · exact .inl ⟨[], rfl, rfl⟩
    · exact .inr ⟨rfl, rfl⟩
    · exact .inr ⟨rfl, rfl⟩
  | float x =>
    by_cases hx : x = .fin 0
    · exact .inl ⟨[], if_pos hx, if_pos hx⟩
    · refine .inr ⟨?_, if_neg hx⟩
      have hfloat : orEmpty (.float x) = .float x := if_neg hx
      unfold isMapping
      rw [hfloat]
  | str s =>
    by_cases hs : s = ""
    · subst hs
      exact .inl ⟨[], rfl, rfl⟩
    · have hstr : orEmpty (.str s : PyVal α) = .str s := by simp [orEmpty, hs]
      have hraises : mappingOrEmpty (.str s : PyVal α) = .error (.raised .attributeError) := by
        simp [mappingOrEmpty, hs]
      refine .inr ⟨?_, hraises⟩
      unfold isMapping
      rw [hstr]
  | list xs =>
    cases xs with
    | nil => exact .inl ⟨[], rfl, rfl⟩
    | cons x xs => exact .inr ⟨rfl, rfl⟩
  | dict es => exact .inl ⟨es, rfl, rfl⟩

lemma raises_mappingOrEmpty (v : PyVal α) : Raises (mappingOrEmpty v) ↔ isMapping v = false := by
  rcases mappingOrEmpty_cases v with ⟨es, hes, heq⟩ | ⟨hmapping, heq⟩
  · have hmapping : isMapping v = true := by
      unfold isMapping
      rw [hes]
    rw [heq, hmapping]
    exact iff_of_false (not_raises_ok es) (by simp)
  · rw [heq, hmapping]
    exact iff_of_true ⟨.attributeError, rfl, by simp⟩ rfl

lemma raises_readState (r : Reading α) : Raises (readState r.state) ↔ TopRaises r := by
  unfold TopRaises readState
  cases r.state with
  | error e =>
    constructor
    · rintro ⟨e', h, he⟩
      cases h
      exact he
    · intro he
      exact ⟨e, rfl, he⟩
  | ok v => exact raises_mappingOrEmpty v

omit [Field α] [LinearOrder α] in
lemma raises_snapshotTs (iso : IsoTimestamp α) (timestamp : Option (PyVal α)) :
    Raises (snapshotTs iso timestamp) ↔ TimestampRaises iso timestamp := by
  constructor
  · rintro ⟨e, h, he⟩
    unfold snapshotTs at h
    split at h
    · rename_i ts
      cases hiso : iso ts with
      | none =>
        rw [hiso] at h
        cases h
      | some result =>
        rw [hiso] at h
        cases result with
        | ok t => cases h
        | error e' =>
          by_cases hvalue : e' = .valueError
          · subst hvalue
            cases h
          · have heq : e' = e := by
              cases e' with
              | valueError => exact absurd rfl hvalue
              | _ => cases h; rfl
            exact ⟨ts, e, rfl, by rw [← heq]; exact hiso, heq ▸ hvalue, he⟩
    · cases h
  · rintro ⟨ts, e, rfl, hiso, hvalue, htype⟩
    refine ⟨e, ?_, htype⟩
    unfold snapshotTs
    simp only [hiso]

variable [IsStrictOrderedRing α] {F : FloatFormat α} {iso : IsoTimestamp α}
  {fresh : FreshnessThresholds α}

lemma not_raises_checkRobotState (snapshot : PyVal α) (now : PyFloat α) (ts : Option (PyFloat α)) :
    ¬ Raises (checkRobotState F fresh snapshot now ts) := by
  have hage : ∀ t, ¬ Raises (do
      refuseIf (decide (.fin fresh.unavailableAfter < F.sub now t)) .robotUnavailable
      refuseIf (decide (.fin fresh.staleAfter < F.sub now t)) .robotStale : Check Unit) := by
    intro t
    show ¬ Raises (Except.bind _ _)
    rw [raises_bind_left fun _ _ => not_raises_refuseIf _ _]
    exact not_raises_refuseIf _ _
  cases snapshot with
  | null => exact not_raises_reason _
  | bool | int | float | str | list | dict =>
    cases ts with
    | none => exact not_raises_ok _
    | some t => exact hage t

omit [IsStrictOrderedRing α] in
lemma not_raises_checkBattery (battery : PyVal α) : ¬ Raises (checkBattery battery) := by
  cases battery with
  | null => exact not_raises_ok _
  | str | list | dict => exact not_raises_typeError
  | bool | int | float =>
    show ¬ Raises (Except.bind _ _)
    rw [raises_bind_left fun _ _ => not_raises_refuseIf _ _]
    exact not_raises_refuseIf _ _

lemma not_raises_checkRateLimit (robot : String) (lastCmd : Dict String (PyFloat α))
    (now : PyFloat α) : ¬ Raises (checkRateLimit F robot lastCmd now) := by
  unfold checkRateLimit
  split
  · exact not_raises_ok _
  · exact not_raises_refuseIf _ _

/-- What the shared stage raises is what the state file holds against the robot. -/
lemma raises_freshSnapshot (r : Reading α) (robot : PyVal α) :
    Raises (freshSnapshot F iso fresh r robot) ↔ StateRaises iso r robot := by
  -- what raises is one of four steps, each behind the ones that passed
  have hsteps : Raises (freshSnapshot F iso fresh r robot) ↔
      TopRaises r ∨ ∃ state, readState r.state = .ok state ∧
        timestampIsCorrupt iso (Dict.find state "timestamp") = false ∧
        (isMapping ((Dict.find state "robots").getD .null) = false ∨
          ∃ robots, mappingOrEmpty ((Dict.find state "robots").getD .null) = .ok robots ∧
            ∃ snapshot, lookup robots robot = .ok snapshot ∧
              TimestampRaises iso (Dict.find state "timestamp")) := by
    show Raises (Except.bind _ fun state => Except.bind _ fun _ => Except.bind _ fun robots =>
      Except.bind _ fun snapshot => Except.bind _ fun ts => Except.bind _ fun _ => .ok snapshot) ↔ _
    simp only [raises_bind, raises_readState, not_raises_refuseIf, refuseIf_eq_ok,
      raises_mappingOrEmpty, raises_lookup, raises_snapshotTs, not_raises_checkRobotState,
      not_raises_ok, false_or, or_false, and_false, exists_false, exists_const]
  -- looking the robot up succeeds in some mapping exactly when it can be a key
  have hrobots : ∀ robots : PyVal α, ∀ P : Prop,
      (isMapping robots = false ∨ ∃ es, mappingOrEmpty robots = .ok es ∧
        ∃ snapshot, lookup es robot = .ok snapshot ∧ P) ↔
      isMapping robots = false ∨ hashable robot = true ∧ P := by
    intro robots P
    rcases mappingOrEmpty_cases robots with ⟨es, -, heq⟩ | ⟨hmapping, -⟩
    · rw [heq, ← lookup_eq_ok es robot]
      simp only [Except.ok.injEq, exists_eq_left', exists_and_right]
    · exact iff_of_true (.inl hmapping) (.inl hmapping)
  simp only [hrobots] at hsteps
  rw [hsteps]
  unfold StateRaises TopRaises readState
  cases r.state with
  | error e =>
    constructor
    · rintro (he | ⟨state, h, -⟩)
      · exact he
      · cases h
    · exact .inl
  | ok v =>
    rcases mappingOrEmpty_cases v with ⟨es, hes, heq⟩ | ⟨hmapping, heq⟩
    · have hmapping : isMapping v = true := by
        unfold isMapping
        rw [hes]
      simp only [heq, hes, hmapping, Bool.true_eq_false, false_or, Except.ok.injEq,
        exists_eq_left']
    · refine iff_of_true (.inl hmapping) ?_
      unfold isMapping at hmapping
      split at hmapping
      · cases hmapping
      · rename_i hnot
        show match orEmpty v with
          | .dict state => _
          | _ => True
        split
        · rename_i es hes
          exact absurd hes (hnot es)
        · trivial

end State

/-! ## What the validations raise -/

section Validations

variable {α : Type}

lemma not_raises_checkLocationKnown (name : PyVal α) : ¬ Raises (checkLocationKnown name) := by
  cases name with
  | null => exact not_raises_reason _
  | str name =>
    cases hknown : isKnownLocation name with
    | true => simp [checkLocationKnown, hknown, not_raises_ok]
    | false => simp [checkLocationKnown, hknown, not_raises_reason]
  | bool | int | float => exact not_raises_reason _
  | list | dict => exact not_raises_typeError

lemma not_raises_locationStage (robot pickup dropoff action : PyVal α) :
    ¬ Raises (locationStage robot pickup dropoff action) := by
  have hsame : ∀ pickup dropoff, ¬ Raises (checkSameLocation pickup dropoff) :=
    fun _ _ => not_raises_refuseIf _ _
  have hplaces : ∀ c : Check (Option String), ¬ Raises c → ¬ Raises (Except.bind c fun pickup =>
      Except.bind (checkLocationKnown dropoff) fun dropoff =>
        checkSameLocation pickup (some dropoff)) := by
    intro c hc
    rw [raises_bind_left]
    · exact hc
    · intro pickup _
      rw [raises_bind_left fun dropoff _ => hsame pickup (some dropoff)]
      exact not_raises_checkLocationKnown dropoff
  unfold locationStage
  split_ifs
  · exact not_raises_refuseIf _ _
  · cases pickup with
    | null => exact hplaces _ (not_raises_ok none)
    | bool | int | float | str | list | dict =>
      refine hplaces _ ?_
      rw [raises_map]
      exact not_raises_checkLocationKnown _

lemma not_raises_checkDuplicateDestination (dropoff : PyVal α)
    (dropoffs : Dict String (PyVal α)) (robot : PyVal α) :
    ¬ Raises (checkDuplicateDestination dropoff dropoffs robot) := by
  cases dropoff with
  | str => exact not_raises_refuseIf _ _
  | null | bool | int | float | list | dict => exact not_raises_ok _

variable [Field α] [LinearOrder α] [IsStrictOrderedRing α] {F : FloatFormat α}
  {iso : IsoTimestamp α} {fresh : FreshnessThresholds α}

/-- The robot stage raises what the state file holds against the robot, if one is named. -/
lemma raises_robotStage (g : PolicyGate α (PyVal α)) (r : Reading α) (robot : PyVal α) :
    Raises (robotStage F iso fresh g r robot) ↔
      isNull robot = false ∧ StateRaises iso r robot := by
  have hrest : ∀ c : Check Unit, ¬ Raises c →
      (Raises (Except.bind (freshSnapshot F iso fresh r robot) fun snapshot =>
        Except.bind (checkBattery ((snapshot.get? "battery").getD .null)) fun _ => c) ↔
      StateRaises iso r robot) := by
    intro c hc
    rw [raises_bind_left, raises_freshSnapshot]
    intro snapshot _
    rw [raises_bind_left fun _ _ => hc]
    exact not_raises_checkBattery _
  cases robot with
  | null => exact iff_of_false (not_raises_ok _) (by simp [isNull])
  | str name =>
    have htables : ¬ Raises (Except.bind (checkEmergency name g.emergency) fun _ =>
        checkRateLimit F name g.lastCmd r.now) := by
      rw [raises_bind_left fun _ _ => not_raises_checkRateLimit name g.lastCmd r.now]
      exact not_raises_refuseIf _ _
    exact (hrest _ htables).trans (by simp [isNull])
  | bool | int | float | list | dict =>
    exact (hrest _ (not_raises_ok ())).trans (by simp [isNull])

lemma raises_validateDispatchInner (g : PolicyGate α (PyVal α)) (r : Reading α)
    (robot pickup dropoff action : PyVal α) :
    Raises (validateDispatchInner F iso fresh g r robot pickup dropoff action) ↔
      locationStage robot pickup dropoff action = .ok () ∧ isNull robot = false ∧
        StateRaises iso r robot := by
  have hduplicate : ¬ Raises (if isText action "deliver" then
      checkDuplicateDestination dropoff g.dropoffs robot else .ok () : Check Unit) := by
    split_ifs
    · exact not_raises_checkDuplicateDestination dropoff g.dropoffs robot
    · exact not_raises_ok _
  have hrobot : Raises (Except.bind (robotStage F iso fresh g r robot) fun _ =>
      if isText action "deliver" then checkDuplicateDestination dropoff g.dropoffs robot
      else .ok ()) ↔ isNull robot = false ∧ StateRaises iso r robot := by
    rw [raises_bind_left fun _ _ => hduplicate]
    exact raises_robotStage g r robot
  show Raises (Except.bind (locationStage robot pickup dropoff action) fun _ =>
    Except.bind (robotStage F iso fresh g r robot) fun _ =>
      if isText action "deliver" then checkDuplicateDestination dropoff g.dropoffs robot
      else .ok ()) ↔ _
  rw [raises_bind_of_not (not_raises_locationStage robot pickup dropoff action), hrobot]
  constructor
  · rintro ⟨u, hlocation, hraises⟩
    exact ⟨hlocation, hraises⟩
  · rintro ⟨hlocation, hraises⟩
    exact ⟨(), hlocation, hraises⟩

lemma raises_validateChargingInner (g : PolicyGate α (PyVal α)) (r : Reading α)
    (robot : PyVal α) :
    Raises (validateChargingInner F iso fresh g r robot) ↔ StateRaises iso r robot := by
  have hbattery : ∀ battery : PyVal α, ¬ Raises (checkChargingNeeded battery) := by
    intro battery
    cases battery with
    | null => exact not_raises_ok _
    | str | list | dict => exact not_raises_typeError
    | bool | int | float => exact not_raises_refuseIf _ _
  have hrest : ∀ c : Check Unit, ¬ Raises c →
      (Raises (Except.bind (freshSnapshot F iso fresh r robot) fun snapshot =>
        Except.bind c fun _ => checkChargingNeeded ((snapshot.get? "battery").getD .null)) ↔
      StateRaises iso r robot) := by
    intro c hc
    rw [raises_bind_left, raises_freshSnapshot]
    intro snapshot _
    rw [raises_bind_left fun _ _ => hbattery _]
    exact hc
  cases robot with
  | str name => exact hrest (checkEmergency name g.emergency) (not_raises_refuseIf _ _)
  | null | bool | int | float | list | dict => exact hrest _ (not_raises_ok ())

omit [IsStrictOrderedRing α] in
lemma raises_getFleetStatus (w : WarehouseTools α) (r : Reading α) :
    Raises (getFleetStatus w r) ↔ TopRaises r := by
  have hlen : ∀ v : PyVal α, ¬ Raises (len v) := by
    intro v
    cases v with
    | str | list | dict => exact not_raises_ok _
    | null | bool | int | float => exact not_raises_typeError
  show Raises (Except.bind (readState r.state) fun _ => Except.bind (len _) fun _ => .ok _) ↔ _
  rw [raises_bind_left, raises_readState]
  intro state _
  rw [raises_bind_left fun _ _ => not_raises_ok _]
  exact hlen _

end Validations

/-! ## What the bodies of the tools answer -/

section Bodies

open PolicyGate

variable {α : Type}

/-- The result is an exception `dispatch` lets through. -/
def Escaping (result : Except PyErr (Fields α)) : Prop := ∃ e, result = .error e ∧ e ≠ .typeError

lemma not_escaping_ok (fields : Fields α) : ¬ Escaping (.ok fields) := by
  rintro ⟨e, h, -⟩
  cases h

/-- What the body of a tool does to a gate in order: what it returns has a status, and unless the
status is ok the gate is left alone. -/
structure Answered (g g' : PolicyGate α (PyVal α)) (result : Except PyErr (Fields α)) : Prop where
  hasStatus : ∀ fields, result = .ok fields → HasStatus fields
  unchanged : accepted result = false → g' = g
  bookkeeping : Bookkeeping g'

section Answered

variable {g g' : PolicyGate α (PyVal α)}

lemma answered_refused (h : Bookkeeping g) (reason : String) (fields : Fields α) :
    Answered g g (.ok (rejectedStatus reason fields)) where
  hasStatus := by
    rintro _ ⟨⟩
    exact hasStatus_rejectedStatus reason fields
  unchanged _ := rfl
  bookkeeping := h

lemma answered_error (h : Bookkeeping g) (e : PyErr) : Answered g g (.error e) where
  hasStatus := by
    rintro _ ⟨⟩
  unchanged _ := rfl
  bookkeeping := h

lemma answered_ok (h : Bookkeeping g') (fields : Fields α) :
    Answered g g' (.ok (okStatus fields)) where
  hasStatus := by
    rintro _ ⟨⟩
    exact hasStatus_okStatus fields
  unchanged hno := by
    cases hno
  bookkeeping := h

lemma answered_ofRefusal (h : Bookkeeping g) (fields : Fields α) (refusal : Refusal) :
    Answered g g (ofRefusal fields refusal) := by
  cases refusal with
  | reason r => exact answered_refused h r.text fields
  | raised e => exact answered_error h e

end Answered

lemma escaping_ofRefusal {β : Type} (fields : Fields α) (refusal : Refusal) :
    Escaping (ofRefusal fields refusal) ↔ Raises (.error refusal : Check β) := by
  cases refusal with
  | reason r => exact iff_of_false (not_escaping_ok _) (not_raises_reason r)
  | raised e =>
    constructor
    · rintro ⟨e', h, he⟩
      cases h
      exact ⟨e, rfl, he⟩
    · rintro ⟨e', h, he⟩
      cases h
      exact ⟨e, rfl, he⟩

/-- A cancel answers for every text; the robot of a `current:` form that has no task has no
reservation either. -/
lemma cancelTask_answered {w : WarehouseTools α} (h : Bookkeeping w.gate)
    (args : Dict String (PyVal α)) :
    Answered w.gate (cancelTask w args).1.gate (cancelTask w args).2 := by
  unfold cancelTask
  split
  · rename_i taskId htask
    split
    · rename_i robot hcurrent
      simp only []
      cases hresolved : (w.gate.resolveAndClearActive robot).2 with
      | none =>
        have hsame := h.resolveAndClearActive_none hresolved
        simp only [hsame]
        exact answered_refused h _ _
      | some resolved => exact answered_ok (h.resolveAndClearActive robot) _
    · exact answered_ok (h.resolveAndClearByTaskId taskId) _
  · exact answered_error h _

lemma escalationResponse_answered {w : WarehouseTools α} (h : Bookkeeping w.gate)
    (args : Dict String (PyVal α)) :
    Answered w.gate (escalationResponse w args).1.gate (escalationResponse w args).2 := by
  simp only [escalationResponse]
  split_ifs
  · exact answered_refused h _ _
  · exact answered_error h _
  · split
    · exact answered_refused h _ _
    · exact answered_refused h _ _
    · exact answered_ok h _

lemma startNegotiation_answered {w : WarehouseTools α} (h : Bookkeeping w.gate)
    (args : Dict String (PyVal α)) :
    Answered w.gate (startNegotiation w args).1.gate (startNegotiation w args).2 := by
  simp only [startNegotiation]
  split_ifs
  · exact answered_refused h _ _
  · exact answered_ok h _

/-- A validation that registers what passes answers for its verdict. -/
lemma registerIf_answered {g : PolicyGate α (PyVal α)} (h : Bookkeeping g) (verdict : Check Unit)
    (robot : Option String) (dropoff : Option (PyVal α)) (now : PyFloat α) (fields : Fields α)
    (payload : String → Fields α) :
    Answered g (g.registerIf verdict robot dropoff now).1
      (ofDispatch fields payload (g.registerIf verdict robot dropoff now).2) := by
  rcases g.registerIf_cases verdict robot dropoff now with ⟨refusal, -, heq⟩ | ⟨-, heq⟩
  · rw [heq]
    exact answered_ofRefusal h fields refusal
  · rw [heq]
    exact answered_ok (h.register robot dropoff now) _

/-- It raises what its verdict raises. -/
lemma escaping_registerIf (g : PolicyGate α (PyVal α)) (verdict : Check Unit)
    (robot : Option String) (dropoff : Option (PyVal α)) (now : PyFloat α) (fields : Fields α)
    (payload : String → Fields α) :
    Escaping (ofDispatch fields payload (g.registerIf verdict robot dropoff now).2) ↔
      Raises verdict := by
  rcases g.registerIf_cases verdict robot dropoff now with
    ⟨refusal, hverdict, heq⟩ | ⟨hverdict, heq⟩
  · rw [heq, hverdict]
    exact escaping_ofRefusal fields refusal
  · rw [heq, hverdict]
    exact iff_of_false (not_escaping_ok _) (not_raises_ok _)

variable [Field α] [LinearOrder α] [IsStrictOrderedRing α] {F : FloatFormat α}
  {iso : IsoTimestamp α} {fresh : FreshnessThresholds α}

omit [IsStrictOrderedRing α] in
lemma getFleetStatus_answered {w : WarehouseTools α} (h : Bookkeeping w.gate) (r : Reading α) :
    Answered w.gate w.gate (ofCheck (getFleetStatus w r)) := by
  cases hstatus : getFleetStatus w r with
  | error refusal => exact answered_ofRefusal h [] refusal
  | ok fields =>
    obtain ⟨state, -, hstatus⟩ := exceptBind_eq_ok.mp hstatus
    obtain ⟨n, -, hstatus⟩ := exceptBind_eq_ok.mp hstatus
    rw [← Except.ok.inj hstatus]
    exact answered_ok h _

lemma dispatchTask_answered {w : WarehouseTools α} (h : Bookkeeping w.gate) (r : Reading α)
    (args : Dict String (PyVal α)) :
    Answered w.gate (dispatchTask F iso fresh w r args).1.gate
      (dispatchTask F iso fresh w r args).2 := by
  simp only [dispatchTask, validateAndRegisterDispatch]
  exact registerIf_answered h _ _ _ _ _ _

lemma sendToCharging_answered {w : WarehouseTools α} (h : Bookkeeping w.gate) (r : Reading α)
    (args : Dict String (PyVal α)) :
    Answered w.gate (sendToCharging F iso fresh w r args).1.gate
      (sendToCharging F iso fresh w r args).2 := by
  simp only [sendToCharging, validateAndRegisterCharging]
  exact registerIf_answered h _ _ _ _ _ _

/-- The body of every tool answers with a status, and leaves the gate alone unless it is ok. -/
lemma runTool_answered {w : WarehouseTools α} (h : Bookkeeping w.gate) (r : Reading α)
    (args : Dict String (PyVal α)) (tool : ToolName) :
    Answered w.gate (runTool F iso fresh w r args tool).1.gate
      (runTool F iso fresh w r args tool).2 := by
  cases tool with
  | dispatchTask => exact dispatchTask_answered h r args
  | sendToCharging => exact sendToCharging_answered h r args
  | cancelTask => exact cancelTask_answered h args
  | getFleetStatus => exact getFleetStatus_answered h r
  | getTaskQueue => exact answered_ok h _
  | escalationResponse => exact escalationResponse_answered h args
  | startNegotiation => exact startNegotiation_answered h args

/-- **What takes a tool down**, past the generation check: a task id that is no text, and a state
file a robot or the fleet status is looked up in. -/
def BodyRaises (iso : IsoTimestamp α) (r : Reading α) (args : Dict String (PyVal α)) :
    ToolName → Prop
  | .dispatchTask =>
    locationStage (args.getD "robot" .null) (args.getD "pickup" .null)
        (args.getD "dropoff" .null) (args.getD "action" (.str "deliver")) = .ok () ∧
      isNull (args.getD "robot" .null) = false ∧ StateRaises iso r (args.getD "robot" .null)
  | .cancelTask => text? (args.getD "task_id" .null) = none
  | .getFleetStatus => TopRaises r
  | .sendToCharging => StateRaises iso r (args.getD "robot" .null)
  | .getTaskQueue | .escalationResponse | .startNegotiation => False

lemma escaping_runTool (w : WarehouseTools α) (r : Reading α) (args : Dict String (PyVal α))
    (tool : ToolName) :
    Escaping (runTool F iso fresh w r args tool).2 ↔ BodyRaises iso r args tool := by
  cases tool with
  | dispatchTask =>
    show Escaping (dispatchTask F iso fresh w r args).2 ↔ _
    simp only [dispatchTask, validateAndRegisterDispatch]
    rw [escaping_registerIf, raises_validateDispatchInner]
    exact Iff.rfl
  | sendToCharging =>
    show Escaping (sendToCharging F iso fresh w r args).2 ↔ _
    simp only [sendToCharging, validateAndRegisterCharging]
    rw [escaping_registerIf, raises_validateChargingInner]
    exact Iff.rfl
  | cancelTask =>
    show Escaping (cancelTask w args).2 ↔ text? (args.getD "task_id" .null) = none
    unfold cancelTask
    cases args.getD "task_id" .null with
    | str taskId =>
      refine iff_of_false ?_ (by simp [text?])
      simp only []
      split
      · exact not_escaping_ok _
      · exact not_escaping_ok _
    | null | bool | int | float | list | dict =>
      exact iff_of_true ⟨.attributeError, rfl, by simp⟩ rfl
  | getFleetStatus =>
    show Escaping (ofCheck (getFleetStatus w r)) ↔ TopRaises r
    rw [← raises_getFleetStatus w r]
    cases getFleetStatus w r with
    | error refusal => exact escaping_ofRefusal [] refusal
    | ok fields => exact iff_of_false (not_escaping_ok _) (not_raises_ok _)
  | getTaskQueue => exact iff_of_false (not_escaping_ok _) id
  | escalationResponse =>
    refine iff_of_false ?_ id
    show ¬ Escaping (escalationResponse w args).2
    simp only [escalationResponse]
    split_ifs
    · exact not_escaping_ok _
    · rintro ⟨e, h, he⟩
      cases h
      exact he rfl
    · split <;> exact not_escaping_ok _
  | startNegotiation =>
    refine iff_of_false ?_ id
    show ¬ Escaping (startNegotiation w args).2
    simp only [startNegotiation]
    split_ifs <;> exact not_escaping_ok _

end Bodies

/-! ## When a call is answered -/

section Answers

open PolicyGate

variable {α : Type} [Field α] [LinearOrder α] [IsStrictOrderedRing α] (F : FloatFormat α)
  (iso : IsoTimestamp α) (fresh : FreshnessThresholds α) (reprFloat : PyFloat α → String)
  (window : ℕ)

/-- **The condition.**  The call names a tool, has a generation and fits the signature, and then
either reading the remembered keys raises, or the check admits the call and its tool raises. -/
def Escapes (s : Stores α) (r : Reading α) (name : String) (arguments : Dict String (PyVal α)) :
    Prop :=
  ∃ tool, ToolName.ofString? name = some tool ∧
    isNull (arguments.getD "gen_id" .null) = false ∧
    tool.binds (arguments.erase "gen_id") = true ∧
    ((∃ e, Unreadable s (arguments.getD "gen_id" .null)
        (arguments.getD "idempotency_key" .null) e ∧ e ≠ .typeError) ∨
      Admits s (arguments.getD "gen_id" .null) (arguments.getD "idempotency_key" .null) ∧
        BodyRaises iso r (arguments.erase "gen_id") tool)

/-- The call returns a status dictionary, and a status other than ok leaves the gate as it was. -/
structure Answers (w : WarehouseTools α) (r : Reading α) (name : String)
    (arguments : Dict String (PyVal α)) : Prop where
  answered : ∃ fields, (dispatch F iso fresh reprFloat window w r name arguments).2 = .ok fields ∧
    HasStatus fields
  unchanged : accepted (dispatch F iso fresh reprFloat window w r name arguments).2 = false →
    (dispatch F iso fresh reprFloat window w r name arguments).1.gate = w.gate

omit [Field α] [LinearOrder α] [IsStrictOrderedRing α] in
/-- What is not let through becomes an answer with the same gate behind it. -/
lemma Answered.catchTypeError {g g' : PolicyGate α (PyVal α)} {result : Except PyErr (Fields α)}
    (h : Answered g g' result) (hcaught : ¬ Escaping result) :
    (∃ fields, Wire.catchTypeError result = .ok fields ∧ HasStatus fields) ∧
      (accepted (Wire.catchTypeError result) = false → g' = g) := by
  cases result with
  | ok fields => exact ⟨⟨fields, rfl, h.hasStatus fields rfl⟩, h.unchanged⟩
  | error e =>
    have htype : e = .typeError := by
      by_contra hne
      exact hcaught ⟨e, rfl, hne⟩
    subst htype
    exact ⟨⟨_, rfl, hasStatus_errorStatus _⟩, fun _ => h.unchanged rfl⟩

omit [Field α] [LinearOrder α] [IsStrictOrderedRing α] in
lemma catchTypeError_of_escaping {result : Except PyErr (Fields α)} (h : Escaping result) :
    ∃ e, catchTypeError result = .error e := by
  obtain ⟨e, rfl, he⟩ := h
  exact ⟨e, catchTypeError_error he⟩

/-- Reading the keys raises out of the check. -/
lemma check_of_unreadable {s : Stores α} {gen key : PyVal α} {e : PyErr}
    (h : Unreadable s gen key e) : (s.check F reprFloat window gen key).2 = .error e := by
  obtain ⟨hstale, hkey, hload⟩ := h
  have hadd : (s.idempotency.checkAndAdd F reprFloat window key gen).2 = .error e := by
    unfold StoreFile.checkAndAdd
    rw [hload]
  rw [check_of_key F reprFloat window s hstale hkey, hadd]
  rfl

lemma dispatch_of_unreadable {w : WarehouseTools α} {r : Reading α} {name : String}
    {tool : ToolName} {arguments : Dict String (PyVal α)} {e : PyErr}
    (htool : ToolName.ofString? name = some tool)
    (hgen : isNull (arguments.getD "gen_id" .null) = false)
    (hbinds : tool.binds (arguments.erase "gen_id") = true)
    (hraised : Unreadable w.stores (arguments.getD "gen_id" .null)
      (arguments.getD "idempotency_key" .null) e) (he : e ≠ .typeError) :
    ∃ e, (dispatch F iso fresh reprFloat window w r name arguments).2 = .error e := by
  rw [dispatch_eq_callTool F iso fresh reprFloat window htool hgen]
  refine catchTypeError_of_escaping ⟨e, ?_, he⟩
  unfold callTool
  rw [getD_key_erase, hbinds]
  simp only [Bool.not_true, Bool.false_eq_true, if_false, check_of_unreadable F reprFloat window
    hraised]

variable {F iso fresh reprFloat window}

/-- **When a call is answered**, on a gate whose tables agree. -/
theorem answers_iff {w : WarehouseTools α} (h : Bookkeeping w.gate) (r : Reading α) (name : String)
    (arguments : Dict String (PyVal α)) :
    Answers F iso fresh reprFloat window w r name arguments ↔
      ¬ Escapes iso w.stores r name arguments := by
  constructor
  · rintro ⟨⟨fields, hok, -⟩, -⟩ ⟨tool, htool, hgen, hbinds, ⟨e, hraised, he⟩ | ⟨hadmits, hbody⟩⟩
    · obtain ⟨e', herror⟩ := dispatch_of_unreadable F iso fresh reprFloat window (r := r) htool
        hgen hbinds hraised he
      rw [hok] at herror
      cases herror
    · obtain ⟨stores, -, heq⟩ := dispatch_of_admits F iso fresh reprFloat window (r := r) htool
        hgen hbinds hadmits
      have hescaping : Escaping (runTool F iso fresh { w with stores } r
          (arguments.erase "gen_id") tool).2 := (escaping_runTool _ r _ tool).mpr hbody
      obtain ⟨e, herror⟩ := catchTypeError_of_escaping hescaping
      rw [heq, herror] at hok
      cases hok
  · intro hno
    rcases dispatch_cases F iso fresh reprFloat window w r name arguments with
      ⟨tool, htool, hgen, hbinds, hadmits, heq⟩ | ⟨tool, e, htool, hgen, hbinds, hraised, he, -⟩ |
      ⟨fields, heq, hstatus, -⟩
    · have hbook : Bookkeeping { w with stores := (w.stores.check F reprFloat window
        (arguments.getD "gen_id" .null) (arguments.getD "idempotency_key" .null)).1 }.gate := h
      have hcaught : ¬ Escaping (runTool F iso fresh { w with stores := (w.stores.check F reprFloat
          window (arguments.getD "gen_id" .null) (arguments.getD "idempotency_key" .null)).1 } r
          (arguments.erase "gen_id") tool).2 := by
        rw [escaping_runTool]
        exact fun hbody => hno ⟨tool, htool, hgen, hbinds, .inr ⟨hadmits, hbody⟩⟩
      obtain ⟨hanswered, hunchanged⟩ :=
        (runTool_answered hbook r (arguments.erase "gen_id") tool).catchTypeError hcaught
      refine ⟨?_, ?_⟩
      · rw [heq]
        exact hanswered
      · rw [heq]
        exact hunchanged
    · exact absurd ⟨tool, htool, hgen, hbinds, .inl ⟨e, hraised, he⟩⟩ hno
    · refine ⟨⟨fields, by rw [heq], hstatus⟩, ?_⟩
      intro _
      rw [heq]

/-- A call keeps the tables of the gate in step. -/
lemma dispatch_bookkeeping {w : WarehouseTools α} (h : Bookkeeping w.gate) (r : Reading α)
    (name : String) (arguments : Dict String (PyVal α)) :
    Bookkeeping (dispatch F iso fresh reprFloat window w r name arguments).1.gate := by
  rcases dispatch_cases F iso fresh reprFloat window w r name arguments with
    ⟨tool, -, -, -, -, heq⟩ | ⟨tool, e, -, -, -, -, -, heq⟩ | ⟨fields, heq, -⟩
  · have hbook : Bookkeeping { w with stores := (w.stores.check F reprFloat window
      (arguments.getD "gen_id" .null) (arguments.getD "idempotency_key" .null)).1 }.gate := h
    rw [heq]
    exact (runTool_answered hbook r (arguments.erase "gen_id") tool).bookkeeping
  · rw [heq]
    exact h
  · rw [heq]
    exact h

end Answers

/-! ## Runs of the server -/

section Server

open PolicyGate

/-- A call, a flag set or cleared, or a store written by another process. -/
inductive Event (α : Type)
  | call (reading : Reading α) (name : String) (arguments : Dict String (PyVal α))
  | setEmergency (robot : String) (active : Bool)
  | write (stores : Stores α)

/-- The tools before the first call. -/
def WarehouseTools.init {α : Type} (stores : Stores α) (emergency : Finset String) :
    WarehouseTools α := ⟨stores, .init emergency, .empty, 0⟩

variable {α : Type} [Field α] [LinearOrder α] [IsStrictOrderedRing α] (F : FloatFormat α)
  (iso : IsoTimestamp α) (fresh : FreshnessThresholds α) (reprFloat : PyFloat α → String)
  (window : ℕ)

/-- The tools as a machine: a call puts out its answer. -/
def server : Machine (WarehouseTools α) (Event α) (Option (Except PyErr (Fields α))) where
  step w
    | .call reading name arguments =>
      let (w, result) := dispatch F iso fresh reprFloat window w reading name arguments
      (w, some result)
    | .setEmergency robot active => ({ w with gate := w.gate.setEmergency robot active }, none)
    | .write stores => ({ w with stores }, none)

/-- The tables of the gate agree after every run. -/
lemma server_bookkeeping (stores : Stores α) (emergency : Finset String) (es : List (Event α)) :
    Bookkeeping ((server F iso fresh reprFloat window).run (.init stores emergency) es).gate := by
  refine Machine.run_invariant (C := fun _ _ => True)
    (I := fun w : WarehouseTools α => Bookkeeping w.gate) ?_ ?_ (bookkeeping_init emergency)
  · intro w e _ h
    cases e with
    | call reading name arguments => exact dispatch_bookkeeping h reading name arguments
    | setEmergency robot active => exact h.setEmergency robot active
    | write stores => exact h
  · exact (server F iso fresh reprFloat window).allSteps_of_forall _ fun _ _ => trivial

/-- **When the wire entry is total.**  After any run, a call with any name and any arguments, on
any state file, is answered with a status dictionary and leaves the gate as it was unless the
status is ok, exactly when it is not among the calls that escape. -/
theorem dispatch_answers_iff (stores : Stores α) (emergency : Finset String) (es : List (Event α))
    (reading : Reading α) (name : String) (arguments : Dict String (PyVal α)) :
    let w := (server F iso fresh reprFloat window).run (.init stores emergency) es
    Answers F iso fresh reprFloat window w reading name arguments ↔
      ¬ Escapes iso w.stores reading name arguments :=
  answers_iff (server_bookkeeping F iso fresh reprFloat window stores emergency es) reading name
    arguments

/-- A delivery to a place nobody knows is refused before the damaged state file is read. -/
theorem dispatch_answers_iff_unknown_place :
    let reading : Reading ℚ := ⟨.error .valueError, .fin 0⟩
    let arguments : Dict String (PyVal ℚ) :=
      ⟨[("gen_id", .int 1), ("robot", .str "bot1"), ("dropoff", .str "moon")], by simp⟩
    Answers (.exact ℚ) (fun _ => none) .default (fun _ => "nan") 8 (.init .empty ∅) reading
      "dispatch_task" arguments := by
  intro reading arguments
  refine (dispatch_answers_iff (.exact ℚ) (fun _ => none) .default (fun _ => "nan") 8 .empty ∅ []
    reading "dispatch_task" arguments).mpr ?_
  rintro ⟨tool, htool, -, -, ⟨e, ⟨-, -, hload⟩, -⟩ | ⟨-, hbody⟩⟩
  · cases hload
  · obtain rfl : ToolName.dispatchTask = tool := Option.some.inj htool
    exact absurd hbody.1 (by decide +kernel)

/-- A cancel whose task id is a number: the method that looks for a prefix does not exist, and the
exception is not the one that is caught. -/
theorem numeric_task_id_escapes :
    let arguments : Dict String (PyVal ℚ) := ⟨[("gen_id", .int 1), ("task_id", .int 5)], by simp⟩
    let w : WarehouseTools ℚ := .init .empty ∅
    (dispatch (.exact ℚ) (fun _ => none) .default (fun _ => "nan") 8 w ⟨.ok .null, .fin 0⟩
        "cancel_task" arguments).2 = .error .attributeError ∧
      ¬ Answers (.exact ℚ) (fun _ => none) .default (fun _ => "nan") 8 w ⟨.ok .null, .fin 0⟩
        "cancel_task" arguments := by
  intro arguments w
  have hraised : (dispatch (.exact ℚ) (fun _ => none) .default (fun _ => "nan") 8 w
      ⟨.ok .null, .fin 0⟩ "cancel_task" arguments).2 = .error .attributeError := by
    rfl
  refine ⟨hraised, ?_⟩
  rintro ⟨⟨fields, hok, -⟩, -⟩
  rw [hraised] at hok
  cases hok

end Server

end Wire

end MiniatureWarehouse
