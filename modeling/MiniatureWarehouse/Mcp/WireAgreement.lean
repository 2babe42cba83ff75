import MiniatureWarehouse.Mcp.CancelledReservations
import MiniatureWarehouse.Mcp.WireTotality

/-!
# The wire entry refines the typed tools

The gate, the cancels and the emergency flags are studied on calls whose arguments have the types
the signatures give (`ToolCall`), while `dispatch` takes whatever was decoded.  This file is the
bridge between the two.  `ToolName.typed?` reads the arguments of a tool as a typed call where
they have those types; on such a call the decoded gate does what the typed one does, answers the
same, and forwards the same request.

A run of the server on typed calls is therefore a session (`server_refines`), and the gate it ends
with is the one a session ends with.
-/

namespace MiniatureWarehouse

namespace Wire

/-! ## Names as decoded values -/

section Names

variable {α : Type}

/-- A name that may be missing, as it is decoded. -/
def ofName : Option String → PyVal α
  | none => .null
  | some name => .str name

/-- The name a value gives for a keyword that may be null. -/
def name? : PyVal α → Option (Option String)
  | .null => some none
  | .str name => some (some name)
  | _ => none

/-- The number of seconds a value gives for a keyword that may be null. -/
def seconds? : PyVal α → Option (Option (PyFloat α))
  | .null => some none
  | .float x => some (some x)
  | _ => none

lemma eq_ofName {v : PyVal α} {name : Option String} (h : name? v = some name) :
    v = ofName name := by
  cases v with
  | null =>
    cases h
    rfl
  | str s =>
    cases h
    rfl
  | bool | int | float | list | dict => cases h

lemma eq_str {v : PyVal α} {s : String} (h : text? v = some s) : v = .str s := by
  cases v with
  | str s' =>
    cases h
    rfl
  | null | bool | int | float | list | dict => cases h

lemma eq_ofSeconds {v : PyVal α} {duration : Option (PyFloat α)} (h : seconds? v = some duration) :
    v = duration.elim .null .float := by
  cases v with
  | null =>
    cases h
    rfl
  | float x =>
    cases h
    rfl
  | bool | int | str | list | dict => cases h

@[simp] lemma text?_ofName (name : Option String) : text? (ofName name : PyVal α) = name := by
  cases name <;> rfl

@[simp] lemma isNull_ofName (name : Option String) :
    isNull (ofName name : PyVal α) = name.isNone := by
  cases name <;> rfl

@[simp] lemma present?_ofName (name : Option String) :
    present? (ofName name : PyVal α) = name.map .str := by
  cases name <;> rfl

@[simp] lemma isText_str (s t : String) : isText (.str s : PyVal α) t = decide (s = t) := rfl

@[simp] lemma isText_ofName (name : Option String) (s : String) :
    isText (ofName name : PyVal α) s = decide (name = some s) := by
  cases name <;> simp [ofName, isText]

/-- The call the arguments of a tool stand for, when they have the types of its signature. -/
def ToolName.typed? (args : Dict String (PyVal α)) : ToolName → Option (ToolCall α)
  | .dispatchTask => do
    let robot ← name? (args.getD "robot" .null)
    let pickup ← name? (args.getD "pickup" .null)
    let dropoff ← name? (args.getD "dropoff" .null)
    let via ← name? (args.getD "via" .null)
    let action ← text? (args.getD "action" (.str "deliver"))
    let duration ← seconds? (args.getD "duration" .null)
    return .dispatchTask robot pickup dropoff via action duration
  | .cancelTask => (text? (args.getD "task_id" .null)).map .cancelTask
  | .sendToCharging => (text? (args.getD "robot" .null)).map .sendToCharging
  | .getFleetStatus | .getTaskQueue | .escalationResponse | .startNegotiation => some .passive

/-- A request of the typed tools, as it is sent. -/
def ofRequest : Nav2Request α → Request α
  | .navigate robot destination via =>
    ⟨"/api/v1/navigate", [("robot", .str robot), ("destination", .str destination)] ++
      (via.map fun via => ("via", .str via)).toList⟩
  | .wait robot duration => ⟨"/api/v1/wait", [("robot", .str robot), ("duration", .float duration)]⟩
  | .stop robot => ⟨"/api/v1/stop", [("robot", .str robot)]⟩

/-- The gate as the wire has it: its reservations hold names as they were decoded. -/
def ofGate (g : PolicyGate α) : PolicyGate α (PyVal α) where
  activeTasks := g.activeTasks
  dropoffs := g.dropoffs.mapValues fun _ => .str
  emergency := g.emergency
  lastCmd := g.lastCmd
  taskSeq := g.taskSeq

end Names

/-! ## The checks of the gate -/

section Checks

variable {α : Type}

/-- On names the two location checks agree, and what passes is the name. -/
lemma checkLocationKnown_ofName (name : Option String) :
    checkLocationKnown (ofName name : PyVal α) =
      (MiniatureWarehouse.checkLocationKnown name).map fun _ => name.getD "" := by
  cases name with
  | none => rfl
  | some name =>
    show (if isKnownLocation name then _ else _) = (refuseIf (!isKnownLocation name) _).map _
    cases isKnownLocation name with
    | false => rfl
    | true => rfl

lemma locationStage_ofName (robot pickup dropoff : Option String) (action : String) :
    locationStage (ofName robot) (ofName pickup) (ofName dropoff) (.str action : PyVal α) =
      PolicyGate.locationStage robot pickup dropoff action := by
  have hdropoff : ∀ pickup : Option String,
      (Except.bind (checkLocationKnown (ofName dropoff : PyVal α)) fun name =>
        checkSameLocation pickup (some name)) =
      Except.bind (MiniatureWarehouse.checkLocationKnown dropoff) fun _ =>
        checkSameLocation pickup dropoff := by
    intro pickup
    rw [checkLocationKnown_ofName]
    cases dropoff with
    | none => rfl
    | some dropoff => cases MiniatureWarehouse.checkLocationKnown (some dropoff) <;> rfl
  unfold locationStage PolicyGate.locationStage
  by_cases hwait : action = "wait"
  · rw [if_pos (by simp [isText, hwait]), if_neg (by simp [hwait]), isNull_ofName]
  · rw [if_neg (by simp [isText, hwait]), if_pos hwait]
    cases pickup with
    | none => exact hdropoff none
    | some pickup =>
      show (Except.bind ((checkLocationKnown (ofName (some pickup) : PyVal α)).map some)
        fun pickup => Except.bind (checkLocationKnown (ofName dropoff)) fun name =>
          checkSameLocation pickup (some name)) = _
      rw [checkLocationKnown_ofName]
      show _ = Except.bind (MiniatureWarehouse.checkLocationKnown (some pickup)) fun _ =>
        Except.bind (MiniatureWarehouse.checkLocationKnown dropoff) fun _ =>
          checkSameLocation (some pickup) dropoff
      cases MiniatureWarehouse.checkLocationKnown (some pickup) with
      | error refusal => rfl
      | ok u => exact hdropoff (some pickup)

lemma checkDuplicateDestination_ofName (dropoff : Option String) (dropoffs : Dict String String)
    (robot : Option String) :
    checkDuplicateDestination (ofName dropoff) (dropoffs.mapValues fun _ => .str)
        (ofName robot : PyVal α) =
      MiniatureWarehouse.checkDuplicateDestination dropoff dropoffs robot := by
  cases dropoff with
  | none => rfl
  | some dropoff =>
    have hany : ((dropoffs.mapValues fun _ => (.str : String → PyVal α)).entries.any fun e =>
        isText e.2 dropoff && !isText (ofName robot : PyVal α) e.1) =
        dropoffs.entries.any fun e => decide (e.2 = dropoff ∧ some e.1 ≠ robot) := by
      show ((dropoffs.entries.map fun e => (e.1, (.str e.2 : PyVal α))).any _) = _
      rw [List.any_map]
      congr 1
      funext e
      simp [isText_str, Bool.decide_and, eq_comm]
    show refuseIf _ _ = refuseIf _ _
    rw [hany]

variable [Field α] [LinearOrder α] [IsStrictOrderedRing α] (F : FloatFormat α)
  (iso : IsoTimestamp α) (fresh : FreshnessThresholds α)

lemma freshSnapshot_str (r : Reading α) (robot : String) :
    freshSnapshot F iso fresh r (.str robot) = MiniatureWarehouse.freshSnapshot F iso fresh r robot :=
  rfl

lemma robotStage_ofName (g : PolicyGate α) (r : Reading α) (robot : Option String) :
    robotStage F iso fresh (ofGate g) r (ofName robot) =
      PolicyGate.robotStage F iso fresh g r robot := by
  cases robot with
  | none => rfl
  | some robot => rfl

lemma validateDispatchInner_ofName (g : PolicyGate α) (r : Reading α)
    (robot pickup dropoff : Option String) (action : String) :
    validateDispatchInner F iso fresh (ofGate g) r (ofName robot) (ofName pickup)
        (ofName dropoff) (.str action) =
      PolicyGate.validateDispatchInner F iso fresh g r robot pickup dropoff action := by
  unfold validateDispatchInner PolicyGate.validateDispatchInner
  rw [locationStage_ofName, robotStage_ofName]
  show Except.bind _ (fun _ => Except.bind _ fun _ => if isText (.str action) "deliver" then
    checkDuplicateDestination (ofName dropoff) (g.dropoffs.mapValues fun _ => .str) (ofName robot)
      else .ok ()) = _
  rw [checkDuplicateDestination_ofName]
  simp only [isText_str, decide_eq_true_eq]
  rfl

lemma validateChargingInner_str (g : PolicyGate α) (r : Reading α) (robot : String) :
    validateChargingInner F iso fresh (ofGate g) r (.str robot) =
      PolicyGate.validateChargingInner F iso fresh g r robot := by
  unfold validateChargingInner PolicyGate.validateChargingInner
  rw [freshSnapshot_str]
  rfl

end Checks

/-! ## What the calls do to the gate -/

section Effects

variable {α : Type}

lemma registerTaskInner_ofGate (g : PolicyGate α) (robot dropoff : Option String)
    (now : PyFloat α) :
    (ofGate g).registerTaskInner robot (dropoff.map .str) now =
      (ofGate (g.registerTaskInner robot dropoff now).1,
        (g.registerTaskInner robot dropoff now).2) := by
  cases robot with
  | none => rfl
  | some robot =>
    cases dropoff with
    | none => rfl
    | some dropoff =>
      unfold PolicyGate.registerTaskInner ofGate
      simp only [Option.map_some, Dict.mapValues_set]

lemma registerIf_ofGate (g : PolicyGate α) (verdict : Check Unit) (robot dropoff : Option String)
    (now : PyFloat α) :
    (ofGate g).registerIf verdict robot (dropoff.map .str) now =
      (ofGate (g.registerIf verdict robot dropoff now).1,
        (g.registerIf verdict robot dropoff now).2) := by
  cases verdict with
  | error refusal => rfl
  | ok u =>
    unfold PolicyGate.registerIf
    rw [registerTaskInner_ofGate]

lemma resolveAndClearActive_ofGate (g : PolicyGate α) (robot : String) :
    (ofGate g).resolveAndClearActive robot =
      (ofGate (g.resolveAndClearActive robot).1, (g.resolveAndClearActive robot).2) := by
  unfold PolicyGate.resolveAndClearActive ofGate
  simp only [Dict.mapValues_erase]

lemma resolveAndClearByTaskId_ofGate (g : PolicyGate α) (taskId : String) :
    (ofGate g).resolveAndClearByTaskId taskId =
      (ofGate (g.resolveAndClearByTaskId taskId).1, (g.resolveAndClearByTaskId taskId).2) := by
  have hactive : (ofGate g).activeTasks = g.activeTasks := rfl
  unfold PolicyGate.resolveAndClearByTaskId
  rw [hactive]
  cases g.activeTasks.entries.find? fun e => decide (e.2 = taskId) with
  | none => rfl
  | some e =>
    unfold ofGate
    simp only [Dict.mapValues_erase]

end Effects

/-! ## The answers and the requests -/

section Answers

variable {α : Type}

/-- The wire answers what the typed tools answer: an accepted call is forwarded as the same
request, a refusal gives the same reason, an exception is the same one, and what only reads is not
forwarded. -/
def Agrees (tool : ToolName) (call : ToolCall α) :
    ToolResult α → Except PyErr (Fields α) → Prop
  | .ok payload, result => ∃ fields, result = .ok fields ∧ isOk fields = true ∧
      planNav2Request tool fields =
        (MiniatureWarehouse.planNav2Request call payload).map ofRequest
  | .rejected reason, result => ∃ fields, result = .ok (rejectedStatus reason fields)
  | .error e, result => result = .error e
  | .read, result => ∀ fields, result = .ok fields → planNav2Request tool fields = none

lemma agrees_ofDispatch {tool : ToolName} {call : ToolCall α} {payload : String → Payload α}
    {fields : String → Fields α}
    (hrequest : ∀ taskId, planNav2Request tool (okStatus (fields taskId)) =
      (MiniatureWarehouse.planNav2Request call (payload taskId)).map ofRequest)
    (refused : Fields α) (result : DispatchResult) :
    Agrees tool call (.ofDispatch payload result) (ofDispatch refused fields result) := by
  cases result with
  | ok taskId => exact ⟨_, rfl, rfl, hrequest taskId⟩
  | error refusal =>
    cases refusal with
    | reason reason => exact ⟨refused, rfl⟩
    | raised e => rfl

lemma planNav2Request_dispatchTask (robot pickup dropoff via : Option String) (action : String)
    (duration : Option (PyFloat α)) (taskId : String) (priority : PyVal α) :
    planNav2Request .dispatchTask (okStatus [("task_id", .str taskId), ("robot", ofName robot),
      ("action", .str action), ("dropoff", ofName dropoff), ("via", ofName via),
      ("priority", priority), ("duration", duration.elim .null .float)]) =
    (MiniatureWarehouse.planNav2Request
      (.dispatchTask robot pickup dropoff via action duration)
      ⟨taskId, robot, some action, dropoff, via, duration⟩).map ofRequest := by
  cases robot with
  | none => rfl
  | some robot =>
    by_cases hwait : action = "wait"
    · rw [hwait]
      cases duration with
      | none => rfl
      | some duration => rfl
    · have hwire : isText ((Dict.find (okStatus [("task_id", .str taskId),
          ("robot", ofName (some robot)), ("action", .str action), ("dropoff", ofName dropoff),
          ("via", ofName via), ("priority", priority), ("duration", duration.elim .null .float)])
          "action").getD .null : PyVal α) "wait" = false := by
        simpa [okStatus, Dict.find] using hwait
      have htyped : (some action : Option String) ≠ some "wait" := by simpa using hwait
      simp only [planNav2Request, MiniatureWarehouse.planNav2Request, hwire, if_neg htyped]
      cases dropoff with
      | none => rfl
      | some dropoff =>
        cases via with
        | none => rfl
        | some via => rfl

end Answers

/-! ## The tools -/

section Tools

variable {α : Type}

/-- A call on decoded values does what the typed call does. -/
structure Matches (tool : ToolName) (call : ToolCall α) (typed : PolicyGate α × ToolResult α)
    (wire : WarehouseTools α × Except PyErr (Fields α)) : Prop where
  gate : wire.1.gate = ofGate typed.1
  answer : Agrees tool call typed.2 wire.2

variable {w : WarehouseTools α} {g : PolicyGate α} {args : Dict String (PyVal α)}

lemma cancelTask_matches (hg : w.gate = ofGate g) {taskId : String}
    (hid : args.getD "task_id" .null = .str taskId) :
    Matches .cancelTask (.cancelTask taskId) (MiniatureWarehouse.cancelTask g taskId)
      (cancelTask w args) := by
  unfold cancelTask MiniatureWarehouse.cancelTask
  rw [hid]
  cases hcurrent : currentRobot? taskId with
  | some robot =>
    simp only [hcurrent, hg, resolveAndClearActive_ofGate]
    cases (g.resolveAndClearActive robot).2 with
    | none => exact ⟨rfl, _, rfl⟩
    | some resolved => exact ⟨rfl, _, rfl, rfl, rfl⟩
  | none =>
    simp only [hcurrent, hg, resolveAndClearByTaskId_ofGate]
    refine ⟨rfl, _, rfl, rfl, ?_⟩
    cases (g.resolveAndClearByTaskId taskId).2 with
    | none => rfl
    | some robot => rfl

/-- A tool that is not typed further leaves the gate alone and is not forwarded. -/
lemma passive_matches (hg : w.gate = ofGate g) {tool : ToolName} (htool : tool.isMotion = false)
    {wire : WarehouseTools α × Except PyErr (Fields α)} (hgate : wire.1.gate = w.gate) :
    Matches tool .passive (g, .read) wire where
  gate := hgate.trans hg
  answer fields _ := by
    cases tool with
    | dispatchTask | cancelTask | sendToCharging => cases htool
    | getFleetStatus | getTaskQueue | escalationResponse | startNegotiation => rfl

lemma escalationResponse_gate (w : WarehouseTools α) (args : Dict String (PyVal α)) :
    (escalationResponse w args).1.gate = w.gate := by
  simp only [escalationResponse]
  split_ifs
  · rfl
  · rfl
  · split <;> rfl

lemma startNegotiation_gate (w : WarehouseTools α) (args : Dict String (PyVal α)) :
    (startNegotiation w args).1.gate = w.gate := by
  simp only [startNegotiation]
  split_ifs <;> rfl

variable [Field α] [LinearOrder α] [IsStrictOrderedRing α] (F : FloatFormat α)
  (iso : IsoTimestamp α) (fresh : FreshnessThresholds α)

lemma dispatchTask_matches (hg : w.gate = ofGate g) (r : Reading α)
    {robot pickup dropoff via : Option String} {action : String} {duration : Option (PyFloat α)}
    (hrobot : args.getD "robot" .null = ofName robot)
    (hpickup : args.getD "pickup" .null = ofName pickup)
    (hdropoff : args.getD "dropoff" .null = ofName dropoff)
    (hvia : args.getD "via" .null = ofName via)
    (haction : args.getD "action" (.str "deliver") = .str action)
    (hduration : args.getD "duration" .null = duration.elim .null .float) :
    Matches .dispatchTask (.dispatchTask robot pickup dropoff via action duration)
      (MiniatureWarehouse.runTool F iso fresh g r
        (.dispatchTask robot pickup dropoff via action duration))
      (dispatchTask F iso fresh w r args) := by
  unfold dispatchTask validateAndRegisterDispatch
  simp only [hrobot, hpickup, hdropoff, hvia, haction, hduration, hg, text?_ofName,
    present?_ofName, validateDispatchInner_ofName, registerIf_ofGate]
  exact ⟨rfl, agrees_ofDispatch (fun taskId => planNav2Request_dispatchTask robot pickup dropoff
    via action duration taskId _) _ _⟩

lemma sendToCharging_matches (hg : w.gate = ofGate g) (r : Reading α) {robot : String}
    (hrobot : args.getD "robot" .null = .str robot) :
    Matches .sendToCharging (.sendToCharging robot)
      (MiniatureWarehouse.runTool F iso fresh g r (.sendToCharging robot))
      (sendToCharging F iso fresh w r args) := by
  have hregister : (ofGate g).registerIf (PolicyGate.validateChargingInner F iso fresh g r robot)
      (text? (.str robot : PyVal α)) (some (.str "charging_station")) r.now =
      (ofGate (g.validateAndRegisterCharging F iso fresh r robot).1,
        (g.validateAndRegisterCharging F iso fresh r robot).2) :=
    registerIf_ofGate g _ (some robot) (some "charging_station") r.now
  unfold sendToCharging validateAndRegisterCharging
  simp only [hrobot, hg, validateChargingInner_str, hregister]
  exact ⟨rfl, agrees_ofDispatch (fun _ => rfl) _ _⟩

/-- **One call.**  On arguments that stand for a typed call, the body of a tool does what the body
of the typed tool does. -/
theorem runTool_matches (hg : w.gate = ofGate g) (r : Reading α) {tool : ToolName}
    {call : ToolCall α} (htyped : tool.typed? args = some call) :
    Matches tool call (MiniatureWarehouse.runTool F iso fresh g r call)
      (runTool F iso fresh w r args tool) := by
  cases tool with
  | dispatchTask =>
    simp only [ToolName.typed?, Option.bind_eq_bind, Option.bind_eq_some_iff, Option.pure_def,
      Option.some.injEq] at htyped
    obtain ⟨robot, hrobot, pickup, hpickup, dropoff, hdropoff, via, hvia, action, haction,
      duration, hduration, rfl⟩ := htyped
    exact dispatchTask_matches F iso fresh hg r (eq_ofName hrobot) (eq_ofName hpickup)
      (eq_ofName hdropoff) (eq_ofName hvia) (eq_str haction) (eq_ofSeconds hduration)
  | cancelTask =>
    obtain ⟨taskId, hid, rfl⟩ := Option.map_eq_some_iff.mp htyped
    exact cancelTask_matches hg (eq_str hid)
  | sendToCharging =>
    obtain ⟨robot, hrobot, rfl⟩ := Option.map_eq_some_iff.mp htyped
    exact sendToCharging_matches F iso fresh hg r (eq_str hrobot)
  | getFleetStatus | getTaskQueue =>
    obtain rfl : ToolCall.passive = call := Option.some.inj htyped
    exact passive_matches hg rfl rfl
  | escalationResponse =>
    obtain rfl : ToolCall.passive = call := Option.some.inj htyped
    exact passive_matches hg rfl (escalationResponse_gate w args)
  | startNegotiation =>
    obtain rfl : ToolCall.passive = call := Option.some.inj htyped
    exact passive_matches hg rfl (startNegotiation_gate w args)

variable (reprFloat : PyFloat α → String) (window : ℕ)

/-- What the generation check of a call says; keywords that do not fit raise before it. -/
def genOf (w : WarehouseTools α) (tool : ToolName) (gen : PyVal α)
    (args : Dict String (PyVal α)) : Except PyErr GenCheckResult :=
  if tool.binds args then
    (w.stores.check F reprFloat window gen (args.getD "idempotency_key" .null)).2
  else .error .typeError

/-- A tool method does what the typed one does, on what its generation check says. -/
theorem callTool_matches (hg : w.gate = ofGate g) (r : Reading α) {tool : ToolName}
    {call : ToolCall α} (gen : PyVal α) (htyped : tool.typed? args = some call) :
    Matches tool call (MiniatureWarehouse.callTool F iso fresh g
        (genOf F reprFloat window w tool gen args) r call)
      (callTool F iso fresh reprFloat window w r tool gen args) := by
  unfold callTool genOf
  cases tool.binds args with
  | false => exact ⟨hg, rfl⟩
  | true =>
    simp only [Bool.not_true, Bool.false_eq_true, if_false, if_true]
    obtain ⟨stores, checked⟩ := w.stores.check F reprFloat window gen
      (args.getD "idempotency_key" .null)
    cases checked with
    | error e => exact ⟨hg, rfl⟩
    | ok checked =>
      obtain ⟨reason, curGen⟩ := checked
      cases reason with
      | none => exact runTool_matches (w := { w with stores }) F iso fresh hg r htyped
      | some reason =>
        refine ⟨hg, ?_⟩
        cases reason with
        | staleGeneration => exact ⟨_, rfl⟩
        | duplicateCommand => exact ⟨_, rfl⟩

end Tools

/-! ## Runs of the server -/

section Server

variable {α : Type}

/-- The typed call a call of the wire stands for; a name that is no tool reaches none of them. -/
def typedCall? (name : String) (arguments : Dict String (PyVal α)) : Option (ToolCall α) :=
  match ToolName.ofString? name with
  | none => some .passive
  | some tool => tool.typed? (arguments.erase "gen_id")

/-- The typed call an input of the server stands for.  A change of the stores reaches no tool, and
a change of the flags is no call of a session. -/
def Event.typed? : Event α → Option (ToolCall α)
  | .call _ name arguments => typedCall? name arguments
  | .write _ => some .passive
  | .setEmergency .. => none

/-- The request an input is forwarded as, once it has been answered. -/
def Event.forwarded : Event α → Option (Except PyErr (Fields α)) → Option (Request α)
  | .call _ name _, some result => maybeForward name result
  | _, _ => none

/-- The request a typed call is forwarded as, once it has been answered. -/
def typedForwarded (call : ToolCall α) : ToolResult α → Option (Nav2Request α)
  | .ok payload => MiniatureWarehouse.planNav2Request call payload
  | _ => none

lemma maybeForward_catchTypeError (name : String) (result : Except PyErr (Fields α)) :
    maybeForward name (catchTypeError result) = maybeForward name result := by
  unfold maybeForward
  cases ToolName.ofString? name with
  | none => rfl
  | some tool =>
    cases result with
    | ok fields => rfl
    | error e => cases e <;> rfl

/-- Answers that agree are forwarded as the same request. -/
lemma Agrees.forwarded {name : String} {tool : ToolName} {call : ToolCall α}
    {typed : ToolResult α} {result : Except PyErr (Fields α)} (h : Agrees tool call typed result)
    (htool : ToolName.ofString? name = some tool) :
    maybeForward name result = (typedForwarded call typed).map ofRequest := by
  unfold maybeForward
  rw [htool]
  cases typed with
  | ok payload =>
    obtain ⟨fields, rfl, hok, hrequest⟩ := h
    simp only [hok, if_true]
    exact hrequest
  | rejected reason =>
    obtain ⟨fields, rfl⟩ := h
    rfl
  | error e =>
    obtain rfl : result = .error e := h
    rfl
  | read =>
    cases result with
    | error e => rfl
    | ok fields =>
      have hnone : planNav2Request tool fields = none := h fields rfl
      simp only [hnone, ite_self]
      rfl

variable [Field α] [LinearOrder α] [IsStrictOrderedRing α] (F : FloatFormat α)
  (iso : IsoTimestamp α) (fresh : FreshnessThresholds α) (reprFloat : PyFloat α → String)
  (window : ℕ)

/-- A call of the wire that stands for a typed call does to the gate what the typed call does, and
is forwarded as the same request. -/
lemma dispatch_matches {w : WarehouseTools α} {g : PolicyGate α} (hg : w.gate = ofGate g)
    (r : Reading α) {name : String} {arguments : Dict String (PyVal α)} {call : ToolCall α}
    (htyped : typedCall? name arguments = some call) :
    ∃ gen, (dispatch F iso fresh reprFloat window w r name arguments).1.gate =
        ofGate (MiniatureWarehouse.callTool F iso fresh g gen r call).1 ∧
      maybeForward name (dispatch F iso fresh reprFloat window w r name arguments).2 =
        (typedForwarded call (MiniatureWarehouse.callTool F iso fresh g gen r call).2).map
          ofRequest := by
  unfold typedCall? at htyped
  cases htool : ToolName.ofString? name with
  | none =>
    refine ⟨.error .typeError, ?_, ?_⟩
    · unfold dispatch
      rw [htool]
      exact hg
    · unfold maybeForward
      rw [htool]
      rfl
  | some tool =>
    rw [htool] at htyped
    cases hgen : isNull (arguments.getD "gen_id" .null) with
    | true =>
      have hmissing : dispatch F iso fresh reprFloat window w r name arguments =
          (w, .ok (rejectedStatus "missing_gen_id" [])) := by
        unfold dispatch
        rw [htool]
        simp only [eq_null hgen]
      rw [hmissing]
      refine ⟨.error .typeError, hg, ?_⟩
      unfold maybeForward
      rw [htool]
      rfl
    | false =>
      rw [dispatch_eq_callTool F iso fresh reprFloat window htool hgen]
      have hcall := callTool_matches F iso fresh reprFloat window hg r
        (arguments.getD "gen_id" .null) htyped
      refine ⟨_, hcall.gate, ?_⟩
      rw [maybeForward_catchTypeError]
      exact hcall.answer.forwarded htool

/-- An input of the server with its answer, and a call of a session with its own: the call is the
one the arguments stand for, and the same request is forwarded. -/
structure SameCall (wire : Event α × Option (Except PyErr (Fields α)))
    (typed : CancelledReservations.Event α × ToolResult α) : Prop where
  call : wire.1.typed? = some typed.1.call
  request : wire.1.forwarded wire.2 = (typedForwarded typed.1.call typed.2).map ofRequest

/-- **The server refines the typed tools.**  A run of the server whose arguments have the types of
the signatures, with the flags it started with, is a session of the typed tools: call by call the
same requests go to the bridge, and the two gates agree after it. -/
theorem server_refines (stores : Stores α) (emergency : Finset String) {es : List (Event α)}
    (htyped : ∀ e ∈ es, e.typed?.isSome) :
    let wire := server F iso fresh reprFloat window
    let typed := CancelledReservations.session F iso fresh
    ∃ es' : List (CancelledReservations.Event α),
      List.Forall₂ SameCall (es.zip (wire.outputs (.init stores emergency) es))
        (es'.zip (typed.outputs (.init emergency) es')) ∧
      (wire.run (.init stores emergency) es).gate =
        ofGate (typed.run (.init emergency) es').gate := by
  intro wire typed
  have hinit : (WarehouseTools.init stores emergency : WarehouseTools α).gate =
      ofGate (CancelledReservations.Session.init emergency : CancelledReservations.Session α).gate :=
    rfl
  refine Machine.run_refines (R := fun (w : WarehouseTools α)
    (s : CancelledReservations.Session α) => w.gate = ofGate s.gate) ?_ htyped hinit
  intro w s e he hg
  obtain ⟨call, hcall⟩ := Option.isSome_iff_exists.mp he
  cases e with
  | call reading name arguments =>
    obtain ⟨gen, hgate, hrequest⟩ :=
      dispatch_matches F iso fresh reprFloat window hg reading hcall
    exact ⟨⟨call, gen, reading⟩, ⟨hcall, hrequest⟩, hgate⟩
  | setEmergency robot active => cases hcall
  | write stores =>
    obtain rfl : ToolCall.passive = call := Option.some.inj hcall
    exact ⟨⟨.passive, .error .typeError, ⟨.ok .null, .nan⟩⟩, ⟨rfl, rfl⟩, hg⟩

end Server

end Wire

end MiniatureWarehouse
