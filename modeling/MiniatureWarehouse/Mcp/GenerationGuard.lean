import MiniatureWarehouse.Mcp.Wire

/-!
# The generation check on the wire

The generation and the idempotency key of a call arrive as decoded JSON, and every comparison the
check makes is one of the language: a value for which each of them is false passes the test for an
old generation, and evicts every key there is.

For each content of the stores, each generation and each key this file asks whether the check
fails closed whatever the rest of the call is: whether what a motion tool does implies a current
generation and an unseen key, and whether a call that is not accepted leaves the keys that still
count.  `failsClosed_iff` is the exact answer.
-/

namespace MiniatureWarehouse

namespace Wire

section Admits

variable {α : Type}

lemma eq_null {v : PyVal α} (h : isNull v = true) : v = .null := by
  cases v with
  | null => rfl
  | bool | int | float | str | list | dict => cases h

variable [Field α] [LinearOrder α] [IsStrictOrderedRing α]

/-- The check lets the call pass: its generation is a number that is not below the current one,
and its key, if it has one, is looked up in a readable file of numbers and not found. -/
def Admits (s : Stores α) (gen key : PyVal α) : Prop :=
  isStale gen s.curGen = .ok false ∧
    (isNull key = true ∨ ∃ consumed, s.idempotency.load = .ok consumed ∧
      keyIn consumed key = .ok false ∧ allNumbers consumed = true)

/-- The check gets as far as the file of the keys, and reading it raises. -/
def Unreadable (s : Stores α) (gen key : PyVal α) (e : PyErr) : Prop :=
  isStale gen s.curGen = .ok false ∧ isNull key = false ∧ s.idempotency.load = .error e

variable (F : FloatFormat α) (reprFloat : PyFloat α → String) (window : ℕ)

/-- The keys after a call of generation `g` has consumed its own. -/
def keysAfter (consumed : Dict String (PyVal α)) (g : PyNum α) (gen key : PyVal α) :
    Dict String (PyVal α) :=
  let kept := consumed.filter fun _ v => keptAt (g.subInt F window) v
  if keptAt (g.subInt F window) gen then kept.set (keyText reprFloat key) gen else kept

/-- The check of a call that is not old, in terms of its key. -/
lemma check_of_key (s : Stores α) {gen key : PyVal α} (hstale : isStale gen s.curGen = .ok false)
    (hkey : isNull key = false) :
    s.check F reprFloat window gen key =
      ({ s with idempotency := (s.idempotency.checkAndAdd F reprFloat window key gen).1 },
        (s.idempotency.checkAndAdd F reprFloat window key gen).2.map fun
          | true => ⟨none, s.curGen⟩
          | false => ⟨some .duplicateCommand, s.curGen⟩) := by
  unfold Stores.check
  rw [hstale]
  cases key with
  | null => cases hkey
  | bool | int | float | str | list | dict => rfl

/-- A key is consumed when the file is readable, holds numbers only, and does not have it. -/
lemma checkAndAdd_cases (file : StoreFile α) (gen key : PyVal α) {g : PyNum α}
    (hgen : gen.toNum? = some g) :
    (∃ consumed, file.load = .ok consumed ∧ keyIn consumed key = .ok false ∧
      allNumbers consumed = true ∧ file.checkAndAdd F reprFloat window key gen =
        (.object (keysAfter F reprFloat window consumed g gen key), .ok true)) ∨
    ((∀ consumed, file.load = .ok consumed → keyIn consumed key = .ok false →
      allNumbers consumed = false) ∧
      (file.checkAndAdd F reprFloat window key gen).1 = file ∧
      ((file.checkAndAdd F reprFloat window key gen).2 = .ok false ∨
        ∃ e, (file.checkAndAdd F reprFloat window key gen).2 = .error e ∧
          (e = .typeError ∨ file.load = .error e))) := by
  unfold StoreFile.checkAndAdd
  cases hload : file.load with
  | error e =>
    refine .inr ⟨?_, rfl, .inr ⟨e, rfl, .inr rfl⟩⟩
    intro consumed hconsumed
    cases hconsumed
  | ok consumed =>
    cases hin : keyIn consumed key with
    | error e =>
      have htype : e = .typeError := by
        cases key with
        | list | dict => exact (Except.error.inj hin).symm
        | null | bool | int | float | str => cases hin
      refine .inr ⟨?_, by simp [hin], .inr ⟨e, by simp [hin], .inl htype⟩⟩
      rintro consumed' hconsumed hfound
      rw [← Except.ok.inj hconsumed, hin] at hfound
      cases hfound
    | ok found =>
      cases found with
      | true =>
        refine .inr ⟨?_, by simp [hin], .inl (by simp [hin])⟩
        rintro consumed' hconsumed hfound
        rw [← Except.ok.inj hconsumed, hin] at hfound
        cases hfound
      | false =>
        cases hall : allNumbers consumed with
        | true => exact .inl ⟨consumed, rfl, hin, hall, by simp [hin, hgen, hall, keysAfter]⟩
        | false =>
          refine .inr ⟨?_, by simp [hin, hgen, hall],
            .inr ⟨.typeError, by simp [hin, hgen, hall], .inl rfl⟩⟩
          rintro consumed' hconsumed -
          rw [← Except.ok.inj hconsumed]
          exact hall

/-- A call that passes consumes its key; any other one leaves the stores alone. -/
theorem check_cases (s : Stores α) (gen key : PyVal α) :
    (Admits s gen key ∧ (s.check F reprFloat window gen key).2 = .ok ⟨none, s.curGen⟩ ∧
      (isNull key = true ∧ (s.check F reprFloat window gen key).1 = s ∨
        isNull key = false ∧ ∃ consumed g, s.idempotency.load = .ok consumed ∧
          gen.toNum? = some g ∧ (s.check F reprFloat window gen key).1 =
            ⟨s.gen, .object (keysAfter F reprFloat window consumed g gen key)⟩)) ∨
    (¬ Admits s gen key ∧ (s.check F reprFloat window gen key).1 = s ∧
      ((∃ e, (s.check F reprFloat window gen key).2 = .error e ∧
        (e = .typeError ∨ Unreadable s gen key e)) ∨
        ∃ reason, (s.check F reprFloat window gen key).2 = .ok ⟨some reason, s.curGen⟩)) := by
  cases hstale : isStale gen s.curGen with
  | error e =>
    have htype : e = .typeError := by
      unfold isStale at hstale
      split at hstale
      · cases hstale
      · exact (Except.error.inj hstale).symm
    refine .inr ⟨fun h => ?_, by simp [Stores.check, hstale],
      .inl ⟨e, by simp [Stores.check, hstale], .inl htype⟩⟩
    have hstale' := h.1
    rw [hstale] at hstale'
    cases hstale'
  | ok stale =>
    cases stale with
    | true =>
      refine .inr ⟨fun h => ?_, by simp [Stores.check, hstale],
        .inr ⟨.staleGeneration, by simp [Stores.check, hstale]⟩⟩
      have hstale' := h.1
      rw [hstale] at hstale'
      cases hstale'
    | false =>
      cases hkey : isNull key with
      | true =>
        obtain rfl := eq_null hkey
        exact .inl ⟨⟨hstale, .inl rfl⟩, by simp [Stores.check, hstale],
          .inl ⟨rfl, by simp [Stores.check, hstale]⟩⟩
      | false =>
        obtain ⟨g, hgen⟩ : ∃ g, gen.toNum? = some g := by
          unfold isStale at hstale
          cases hnum : gen.toNum? with
          | none =>
            rw [hnum] at hstale
            cases hstale
          | some g => exact ⟨g, rfl⟩
        rw [check_of_key F reprFloat window s hstale hkey]
        rcases checkAndAdd_cases F reprFloat window s.idempotency gen key hgen with
          ⟨consumed, hload, hin, hall, heq⟩ | ⟨hnone, hfile, hrefused⟩
        · rw [heq]
          exact .inl ⟨⟨hstale, .inr ⟨consumed, hload, hin, hall⟩⟩, rfl,
            .inr ⟨rfl, consumed, g, hload, hgen, rfl⟩⟩
        · rw [hfile]
          refine .inr ⟨?_, rfl, ?_⟩
          · rintro ⟨-, hnull | ⟨consumed, hload, hin, hall⟩⟩
            · rw [hkey] at hnull
              cases hnull
            · rw [hnone consumed hload hin] at hall
              cases hall
          · rcases hrefused with hadded | ⟨e, hadded, herror⟩
            · exact .inr ⟨.duplicateCommand, by rw [hadded]; rfl⟩
            · refine .inl ⟨e, by rw [hadded]; rfl, ?_⟩
              rcases herror with htype | hload
              · exact .inl htype
              · exact .inr ⟨hstale, hkey, hload⟩

end Admits

/-! ## What comes before the body of a tool -/

section Dispatch

variable {α : Type}

/-- A status dictionary. -/
def HasStatus (fields : Fields α) : Prop :=
  ∃ status ∈ ["ok", "rejected", "error"], Dict.find fields "status" = some (.str status)

lemma hasStatus_okStatus (fields : Fields α) : HasStatus (okStatus fields) := ⟨"ok", by simp, rfl⟩

lemma hasStatus_rejectedStatus (reason : String) (fields : Fields α) :
    HasStatus (rejectedStatus reason fields) := ⟨"rejected", by simp, rfl⟩

lemma hasStatus_errorStatus (reason : String) : HasStatus (errorStatus reason : Fields α) :=
  ⟨"error", by simp, rfl⟩

/-- Taking the generation out of the arguments leaves the key. -/
lemma getD_key_erase (arguments : Dict String (PyVal α)) :
    (arguments.erase "gen_id").getD "idempotency_key" .null =
      arguments.getD "idempotency_key" .null := by
  show ((arguments.erase "gen_id").get? "idempotency_key").getD .null =
    (arguments.get? "idempotency_key").getD .null
  rw [Dict.get?_erase_of_ne _ (by decide)]

lemma catchTypeError_error {e : PyErr} (he : e ≠ .typeError) :
    catchTypeError (.error e : Except PyErr (Fields α)) = .error e := by
  cases e with
  | typeError => exact absurd rfl he
  | _ => rfl

variable [Field α] [LinearOrder α] [IsStrictOrderedRing α] (F : FloatFormat α)
  (iso : IsoTimestamp α) (fresh : FreshnessThresholds α) (reprFloat : PyFloat α → String)
  (window : ℕ)

/-- A call with a known name and a generation reaches the method of its tool. -/
lemma dispatch_eq_callTool {w : WarehouseTools α} {r : Reading α} {name : String} {tool : ToolName}
    {arguments : Dict String (PyVal α)} (htool : ToolName.ofString? name = some tool)
    (hgen : isNull (arguments.getD "gen_id" .null) = false) :
    dispatch F iso fresh reprFloat window w r name arguments =
      ((callTool F iso fresh reprFloat window w r tool (arguments.getD "gen_id" .null)
          (arguments.erase "gen_id")).1,
        catchTypeError (callTool F iso fresh reprFloat window w r tool
          (arguments.getD "gen_id" .null) (arguments.erase "gen_id")).2) := by
  unfold dispatch
  rw [htool]
  generalize arguments.getD "gen_id" .null = gen at hgen ⊢
  cases gen with
  | null => cases hgen
  | bool | int | float | str | list | dict => rfl

/-- A method runs the body of its tool when the keywords fit and the check admits the call. -/
lemma callTool_cases (w : WarehouseTools α) (r : Reading α) (tool : ToolName) (gen : PyVal α)
    {args : Dict String (PyVal α)} {key : PyVal α} (hkey : args.getD "idempotency_key" .null = key) :
    (tool.binds args = true ∧ Admits w.stores gen key ∧
      callTool F iso fresh reprFloat window w r tool gen args = runTool F iso fresh
        { w with stores := (w.stores.check F reprFloat window gen key).1 } r args tool) ∨
    (tool.binds args = true ∧ ∃ e, Unreadable w.stores gen key e ∧ e ≠ .typeError ∧
      callTool F iso fresh reprFloat window w r tool gen args = (w, .error e)) ∨
    callTool F iso fresh reprFloat window w r tool gen args = (w, .error .typeError) ∨
    (∃ reason, callTool F iso fresh reprFloat window w r tool gen args =
      (w, .ok (genReject reason gen key))) := by
  unfold callTool
  rw [hkey]
  cases hbinds : tool.binds args with
  | false => exact .inr (.inr (.inl rfl))
  | true =>
    simp only [Bool.not_true, Bool.false_eq_true, if_false]
    rcases check_cases F reprFloat window w.stores gen key with
      ⟨hadmits, hok, -⟩ | ⟨-, hstores, ⟨e, herror, hraised⟩ | ⟨reason, hrefused⟩⟩
    · rw [hok]
      exact .inl ⟨trivial, hadmits, rfl⟩
    · rw [herror, hstores]
      by_cases htype : e = .typeError
      · exact .inr (.inr (.inl (by rw [htype])))
      · exact .inr (.inl ⟨trivial, e, hraised.resolve_left htype, htype, rfl⟩)
    · rw [hrefused, hstores]
      exact .inr (.inr (.inr ⟨reason, rfl⟩))

/-- A call runs its tool when the check admits it; otherwise it is answered with a status that is
not ok, or raises what reading the keys has raised, and nothing has changed. -/
theorem dispatch_cases (w : WarehouseTools α) (r : Reading α) (name : String)
    (arguments : Dict String (PyVal α)) :
    let gen := arguments.getD "gen_id" .null
    let key := arguments.getD "idempotency_key" .null
    let args := arguments.erase "gen_id"
    (∃ tool, ToolName.ofString? name = some tool ∧ isNull gen = false ∧ tool.binds args = true ∧
      Admits w.stores gen key ∧
      dispatch F iso fresh reprFloat window w r name arguments =
        ((runTool F iso fresh { w with stores := (w.stores.check F reprFloat window gen key).1 } r
            args tool).1,
          catchTypeError (runTool F iso fresh
            { w with stores := (w.stores.check F reprFloat window gen key).1 } r args tool).2)) ∨
    (∃ tool e, ToolName.ofString? name = some tool ∧ isNull gen = false ∧ tool.binds args = true ∧
      Unreadable w.stores gen key e ∧ e ≠ .typeError ∧
      dispatch F iso fresh reprFloat window w r name arguments = (w, .error e)) ∨
    (∃ fields, dispatch F iso fresh reprFloat window w r name arguments = (w, .ok fields) ∧
      HasStatus fields ∧ isOk fields = false) := by
  intro gen key args
  have hkey : args.getD "idempotency_key" .null = key := getD_key_erase arguments
  cases htool : ToolName.ofString? name with
  | none =>
    refine .inr (.inr ⟨errorStatus ("unknown_tool:" ++ name), ?_, hasStatus_errorStatus _, rfl⟩)
    unfold dispatch
    rw [htool]
  | some tool =>
    cases hgen : isNull gen with
    | true =>
      have hnull : arguments.getD "gen_id" .null = .null := eq_null hgen
      refine .inr (.inr ⟨rejectedStatus "missing_gen_id" [], ?_, hasStatus_rejectedStatus _ _, rfl⟩)
      unfold dispatch
      rw [htool]
      simp only [hnull]
    | false =>
      rw [dispatch_eq_callTool F iso fresh reprFloat window htool hgen]
      rcases callTool_cases F iso fresh reprFloat window w r tool gen hkey with
        ⟨hbinds, hadmits, heq⟩ | ⟨hbinds, e, hraised, htype, heq⟩ | heq | ⟨reason, heq⟩
      · rw [heq]
        exact .inl ⟨tool, rfl, rfl, hbinds, hadmits, rfl⟩
      · rw [heq]
        exact .inr (.inl ⟨tool, e, rfl, rfl, hbinds, hraised, htype,
          by rw [catchTypeError_error htype]⟩)
      · rw [heq]
        exact .inr (.inr ⟨errorStatus "bad_arguments:", rfl, hasStatus_errorStatus _, rfl⟩)
      · rw [heq]
        refine .inr (.inr ⟨genReject reason gen key, rfl, ?_, ?_⟩)
        · cases reason <;> exact hasStatus_rejectedStatus _ _
        · cases reason <;> rfl

/-- The method of an admitted call runs the body of its tool. -/
lemma callTool_of_admits (w : WarehouseTools α) (r : Reading α) {tool : ToolName} {gen : PyVal α}
    {args : Dict String (PyVal α)} {key : PyVal α}
    (hkey : args.getD "idempotency_key" .null = key) (hbinds : tool.binds args = true)
    (hadmits : Admits w.stores gen key) :
    callTool F iso fresh reprFloat window w r tool gen args = runTool F iso fresh
      { w with stores := (w.stores.check F reprFloat window gen key).1 } r args tool := by
  unfold callTool
  rw [hkey, hbinds]
  simp only [Bool.not_true, Bool.false_eq_true, if_false]
  rcases check_cases F reprFloat window w.stores gen key with ⟨-, hok, -⟩ | ⟨hnot, -⟩
  · rw [hok]
  · exact absurd hadmits hnot

/-- So an admitted call is answered by its tool. -/
lemma dispatch_of_admits {w : WarehouseTools α} {r : Reading α} {name : String} {tool : ToolName}
    {arguments : Dict String (PyVal α)} (htool : ToolName.ofString? name = some tool)
    (hgen : isNull (arguments.getD "gen_id" .null) = false)
    (hbinds : tool.binds (arguments.erase "gen_id") = true)
    (hadmits : Admits w.stores (arguments.getD "gen_id" .null)
      (arguments.getD "idempotency_key" .null)) :
    ∃ stores, (w.stores.check F reprFloat window (arguments.getD "gen_id" .null)
        (arguments.getD "idempotency_key" .null)).1 = stores ∧
      dispatch F iso fresh reprFloat window w r name arguments =
        ((runTool F iso fresh { w with stores } r (arguments.erase "gen_id") tool).1,
          catchTypeError
            (runTool F iso fresh { w with stores } r (arguments.erase "gen_id") tool).2) := by
  refine ⟨_, rfl, ?_⟩
  rw [dispatch_eq_callTool F iso fresh reprFloat window htool hgen,
    callTool_of_admits F iso fresh reprFloat window w r (getD_key_erase arguments) hbinds hadmits]

/-- No tool touches the stores. -/
lemma runTool_stores (w : WarehouseTools α) (r : Reading α) (args : Dict String (PyVal α))
    (tool : ToolName) : (runTool F iso fresh w r args tool).1.stores = w.stores := by
  cases tool with
  | dispatchTask | getFleetStatus | getTaskQueue | sendToCharging => rfl
  | cancelTask =>
    show (cancelTask w args).1.stores = w.stores
    unfold cancelTask
    split
    · split <;> rfl
    · rfl
  | escalationResponse =>
    show (escalationResponse w args).1.stores = w.stores
    simp only [escalationResponse]
    split_ifs
    · rfl
    · rfl
    · split <;> rfl
  | startNegotiation =>
    show (startNegotiation w args).1.stores = w.stores
    simp only [startNegotiation]
    split_ifs <;> rfl

end Dispatch

/-! ## Failing closed -/

section Guard

variable {α : Type} [Field α] [LinearOrder α] [IsStrictOrderedRing α]

/-- The call was answered with status ok. -/
def accepted (result : Except PyErr (Fields α)) : Bool :=
  match result with
  | .ok fields => isOk fields
  | .error _ => false

/-- The key is remembered, with what was stored for it. -/
def Remembered (s : Stores α) (key : String) (v : PyVal α) : Prop :=
  ∃ consumed, s.idempotency.load = .ok consumed ∧ consumed.get? key = some v

/-- A generation that counts: a number, and the current generation has not passed it. -/
def Current (s : Stores α) (gen : PyVal α) : Prop :=
  ∃ g, gen.toNum? = some g ∧ (PyNum.int s.curGen).le g = true

variable (F : FloatFormat α) (iso : IsoTimestamp α) (fresh : FreshnessThresholds α)
  (reprFloat : PyFloat α → String) (window : ℕ)

/-- There is no key, or none is remembered under its text. -/
def Unseen (s : Stores α) (key : PyVal α) : Prop :=
  isNull key = true ∨ ∀ v, ¬ Remembered s (keyText reprFloat key) v

/-- What the check is there for, in one call: a motion tool does nothing unless the generation
counts and the key is unseen, and a call that is not accepted forgets no key that still counts. -/
structure FailsClosed (w : WarehouseTools α) (r : Reading α) (name : String)
    (arguments : Dict String (PyVal α)) : Prop where
  motion : ∀ tool, ToolName.ofString? name = some tool → tool.isMotion = true →
    accepted (dispatch F iso fresh reprFloat window w r name arguments).2 = true ∨
      (maybeForward name (dispatch F iso fresh reprFloat window w r name arguments).2).isSome ∨
      (dispatch F iso fresh reprFloat window w r name arguments).1.gate ≠ w.gate →
    Current w.stores (arguments.getD "gen_id" .null) ∧
      Unseen reprFloat w.stores (arguments.getD "idempotency_key" .null)
  kept : accepted (dispatch F iso fresh reprFloat window w r name arguments).2 = false →
    ∀ k v, Remembered w.stores k v → Current w.stores v →
      ∃ v', Remembered (dispatch F iso fresh reprFloat window w r name arguments).1.stores k v'

/-- **The condition.**  If the check admits the generation and the key, then the generation counts,
the key is not remembered under its text, and consuming it evicts no key that still counts. -/
def Guarded (s : Stores α) (gen key : PyVal α) : Prop :=
  Admits s gen key → Current s gen ∧ Unseen reprFloat s key ∧
    (isNull key = true ∨ ∀ g, gen.toNum? = some g → ∀ k v, Remembered s k v → Current s v →
      keptAt (g.subInt F window) v = true)

/-- What is left of the keys that another call has consumed. -/
lemma get?_keysAfter {consumed : Dict String (PyVal α)} {g : PyNum α} {gen key : PyVal α}
    {k : String} (hk : k ≠ keyText reprFloat key) :
    (keysAfter F reprFloat window consumed g gen key).get? k =
      (consumed.get? k).filter (keptAt (g.subInt F window)) := by
  simp only [keysAfter]
  split_ifs with hself
  · rw [Dict.get?_set_of_ne _ _ hk, Dict.get?_filter]
  · rw [Dict.get?_filter]

variable {F iso fresh reprFloat window}

lemma FailsClosed.of_unchanged {w : WarehouseTools α} {r : Reading α} {name : String}
    {arguments : Dict String (PyVal α)} {result : Except PyErr (Fields α)}
    (heq : dispatch F iso fresh reprFloat window w r name arguments = (w, result))
    (hresult : accepted result = false) :
    FailsClosed F iso fresh reprFloat window w r name arguments := by
  refine ⟨?_, ?_⟩
  · rintro tool htool - hdone
    rw [heq] at hdone
    rcases hdone with hok | hforward | hgate
    · exact absurd (hok.symm.trans hresult) (by decide)
    · cases result with
      | error e => simp [maybeForward, htool] at hforward
      | ok fields =>
        have hfields : isOk fields = false := hresult
        simp [maybeForward, htool, hfields] at hforward
    · exact absurd rfl hgate
  · rintro - k v hk -
    rw [heq]
    exact ⟨v, hk⟩

/-- Under the condition no call can go wrong. -/
lemma Guarded.failsClosed {w : WarehouseTools α} {arguments : Dict String (PyVal α)}
    (h : Guarded F reprFloat window w.stores (arguments.getD "gen_id" .null)
      (arguments.getD "idempotency_key" .null)) (r : Reading α) (name : String) :
    FailsClosed F iso fresh reprFloat window w r name arguments := by
  rcases dispatch_cases F iso fresh reprFloat window w r name arguments with
    ⟨tool, -, -, -, hadmits, heq⟩ | ⟨tool, e, -, -, -, -, -, heq⟩ | ⟨fields, heq, -, hfields⟩
  · obtain ⟨hcurrent, hunseen, hkept⟩ := h hadmits
    refine ⟨fun _ _ _ _ => ⟨hcurrent, hunseen⟩, ?_⟩
    rintro - k v ⟨consumed, hload, hget⟩ hv
    rw [heq, runTool_stores]
    rcases check_cases F reprFloat window w.stores (arguments.getD "gen_id" .null)
      (arguments.getD "idempotency_key" .null) with
      ⟨-, -, ⟨-, hstores⟩ | ⟨hkey, consumed', g, hload', hgen, hstores⟩⟩ | ⟨hnot, -⟩
    · exact ⟨v, consumed, by rw [hstores]; exact hload, hget⟩
    · have hkeyed : ¬ isNull (arguments.getD "idempotency_key" .null) = true := by
        rw [hkey]
        exact Bool.false_ne_true
      have hnotext : k ≠ keyText reprFloat (arguments.getD "idempotency_key" .null) := by
        rintro rfl
        exact (hunseen.resolve_left hkeyed) v ⟨consumed, hload, hget⟩
      have hcutoff := (hkept.resolve_left hkeyed) g hgen k v ⟨consumed, hload, hget⟩ hv
      obtain rfl : consumed = consumed' := Except.ok.inj (hload.symm.trans hload')
      refine ⟨v, _, by rw [hstores]; rfl, ?_⟩
      rw [get?_keysAfter F reprFloat window hnotext, hget]
      simp [Option.filter, hcutoff]
    · exact absurd hadmits hnot
  · exact .of_unchanged heq rfl
  · exact .of_unchanged heq hfields

/-- A cancel of a task by its id, with any generation and key. -/
def cancelArguments (gen key : PyVal α) : Dict String (PyVal α) :=
  ⟨[("gen_id", gen), ("idempotency_key", key), ("task_id", .str "x")], by simp⟩

/-- An escalation response with an action that does not exist. -/
def escalationArguments (gen key : PyVal α) : Dict String (PyVal α) :=
  ⟨[("gen_id", gen), ("idempotency_key", key), ("escalation_id", .null), ("action", .null)],
    by simp⟩

omit [IsStrictOrderedRing α] in
lemma Admits.isNull_gen {s : Stores α} {gen key : PyVal α} (h : Admits s gen key) :
    isNull gen = false := by
  cases gen with
  | null => cases h.1
  | bool | int | float | str | list | dict => rfl

/-- An admitted cancel by id is answered with ok, and so it shows that the generation counts and
the key is unseen. -/
lemma current_of_failsClosed {w : WarehouseTools α} {r : Reading α} {gen key : PyVal α}
    (hadmits : Admits w.stores gen key)
    (h : FailsClosed F iso fresh reprFloat window w r "cancel_task" (cancelArguments gen key)) :
    Current w.stores gen ∧ Unseen reprFloat w.stores key := by
  obtain ⟨stores, -, heq⟩ := dispatch_of_admits F iso fresh reprFloat window (r := r)
    (show ToolName.ofString? "cancel_task" = some .cancelTask from rfl)
    (show isNull ((cancelArguments gen key).getD "gen_id" .null) = false from hadmits.isNull_gen)
    rfl hadmits
  have hok : accepted (dispatch F iso fresh reprFloat window w r "cancel_task"
      (cancelArguments gen key)).2 = true := by
    rw [heq]
    rfl
  exact h.motion .cancelTask rfl rfl (.inl hok)

/-- An admitted escalation response to no action is refused, and so it shows what consuming its
key leaves. -/
lemma kept_of_failsClosed {w : WarehouseTools α} {r : Reading α} {gen key : PyVal α}
    (hadmits : Admits w.stores gen key)
    (h : FailsClosed F iso fresh reprFloat window w r "escalation_response"
      (escalationArguments gen key)) {k : String} {v : PyVal α} (hk : Remembered w.stores k v)
    (hv : Current w.stores v) :
    ∃ v', Remembered (w.stores.check F reprFloat window gen key).1 k v' := by
  obtain ⟨stores, hstores, heq⟩ := dispatch_of_admits F iso fresh reprFloat window (r := r)
    (show ToolName.ofString? "escalation_response" = some .escalationResponse from rfl)
    (show isNull ((escalationArguments gen key).getD "gen_id" .null) = false from
      hadmits.isNull_gen) rfl hadmits
  have hstores : (w.stores.check F reprFloat window gen key).1 = stores := hstores
  have hrefused : accepted (dispatch F iso fresh reprFloat window w r "escalation_response"
      (escalationArguments gen key)).2 = false := by
    rw [heq]
    rfl
  obtain ⟨v', hv'⟩ := h.kept hrefused k v hk hv
  rw [heq, runTool_stores] at hv'
  rw [hstores]
  exact ⟨v', hv'⟩

variable (F iso fresh reprFloat window) in
/-- **When the generation check fails closed.**  Whatever the tool, its other arguments, the gate
and the state file are, a motion tool acts only on a generation that counts and an unseen key, and
a call that is not accepted forgets no key that still counts: this holds for a generation and a
key exactly when admitting them implies that the generation counts, the key is not remembered
under its text, and no key that still counts lies before the window of the generation. -/
theorem failsClosed_iff (s : Stores α) (gen key : PyVal α) :
    (∀ w r name arguments, w.stores = s → arguments.getD "gen_id" .null = gen →
      arguments.getD "idempotency_key" .null = key →
      FailsClosed F iso fresh reprFloat window w r name arguments) ↔
    Guarded F reprFloat window s gen key := by
  constructor
  · intro h hadmits
    have hcancel := h ⟨s, .init ∅, .empty, 0⟩ ⟨.ok .null, .nan⟩ "cancel_task"
      (cancelArguments gen key) rfl rfl rfl
    have hescalation := h ⟨s, .init ∅, .empty, 0⟩ ⟨.ok .null, .nan⟩ "escalation_response"
      (escalationArguments gen key) rfl rfl rfl
    obtain ⟨hcurrent, hunseen⟩ := current_of_failsClosed hadmits hcancel
    refine ⟨hcurrent, hunseen, ?_⟩
    rcases check_cases F reprFloat window s gen key with
      ⟨-, -, ⟨hnull, -⟩ | ⟨hkey, consumed, g, hload, hgen, hstores⟩⟩ | ⟨hnot, -⟩
    · exact .inl hnull
    · right
      rintro g' hg' k v hk hv
      obtain rfl : g = g' := Option.some.inj (hgen.symm.trans hg')
      obtain ⟨v', consumed', hload', hget'⟩ := kept_of_failsClosed hadmits hescalation hk hv
      have hloaded : Except.ok (keysAfter F reprFloat window consumed g gen key) =
          (.ok consumed' : Except PyErr (Dict String (PyVal α))) := by
        rw [← hload']
        exact congrArg (fun t : Stores α => t.idempotency.load) hstores.symm
      have hnotext : k ≠ keyText reprFloat key := by
        rintro rfl
        have hkeyed : ¬ isNull key = true := by
          rw [hkey]
          exact Bool.false_ne_true
        exact (hunseen.resolve_left hkeyed) v hk
      rw [← Except.ok.inj hloaded, get?_keysAfter F reprFloat window hnotext] at hget'
      obtain ⟨consumed'', hload'', hget''⟩ := hk
      obtain rfl : consumed = consumed'' := Except.ok.inj (hload.symm.trans hload'')
      rw [hget'', Option.filter_eq_some_iff] at hget'
      obtain rfl : v = v' := Option.some.inj hget'.1
      exact hget'.2
    · exact absurd hadmits hnot
  · rintro h w r name arguments rfl rfl rfl
    exact h.failsClosed r name

end Guard

/-! ## Two calls -/

section Calls

/-- The tools at the fifth generation, with one key of that generation remembered. -/
def fifthGeneration : WarehouseTools ℚ :=
  ⟨⟨some 5, .object ⟨[("seen", .int 5)], by simp⟩⟩, .init ∅, .empty, 0⟩

/-- A generation that is not a number passes for a current one: the cancel is accepted, and the key
that still counts is forgotten. -/
theorem nan_generation_is_accepted :
    let arguments := cancelArguments (.float .nan) (.str "new")
    let answer := dispatch (.exact ℚ) (fun _ => none) .default (fun _ => "nan") 8 fifthGeneration
      ⟨.ok .null, .fin 0⟩ "cancel_task" arguments
    accepted answer.2 = true ∧
      (answer.1.stores.idempotency.load.toOption.any fun keys => keys.contains "seen") = false ∧
      ¬ FailsClosed (.exact ℚ) (fun _ => none) .default (fun _ => "nan") 8 fifthGeneration
        ⟨.ok .null, .fin 0⟩ "cancel_task" arguments := by
  intro arguments answer
  have haccepted : accepted answer.2 = true := by decide +kernel
  refine ⟨haccepted, by decide +kernel, ?_⟩
  intro h
  obtain ⟨g, hg, hle⟩ := (h.motion .cancelTask rfl rfl (.inl haccepted)).1
  obtain rfl : .float .nan = g := Option.some.inj hg
  exact absurd hle (by decide)

/-- A call of the current generation with a new key, on stores that remember nothing. -/
theorem failsClosed_iff_current :
    let w : WarehouseTools ℚ := ⟨⟨some 5, .missing⟩, .init ∅, .empty, 0⟩
    let arguments := cancelArguments (.int 5) (.str "new")
    accepted (dispatch (.exact ℚ) (fun _ => none) .default (fun _ => "nan") 8 w
      ⟨.ok .null, .fin 0⟩ "cancel_task" arguments).2 = true ∧
      FailsClosed (.exact ℚ) (fun _ => none) .default (fun _ => "nan") 8 w ⟨.ok .null, .fin 0⟩
        "cancel_task" arguments := by
  intro w arguments
  have hnothing : ∀ k v, ¬ Remembered w.stores k v := by
    rintro k v ⟨consumed, hload, hget⟩
    rw [← Except.ok.inj hload] at hget
    cases hget
  have hguarded : Guarded (.exact ℚ) (fun _ => "nan") 8 w.stores (.int 5) (.str "new") := by
    intro _
    refine ⟨⟨.int 5, rfl, by decide +kernel⟩, .inr (hnothing _), .inr ?_⟩
    intro g _ k v hk _
    exact absurd hk (hnothing k v)
  exact ⟨by decide +kernel, (failsClosed_iff (.exact ℚ) (fun _ => none) .default (fun _ => "nan") 8
    w.stores (.int 5) (.str "new")).mpr hguarded w _ _ arguments rfl rfl rfl⟩

end Calls

end Wire

end MiniatureWarehouse
