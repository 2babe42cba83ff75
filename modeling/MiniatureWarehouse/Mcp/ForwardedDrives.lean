import MiniatureWarehouse.Mcp.WireAgreement

/-!
# Which forwarded drives were checked

The gate and the forwarder read the free-form action of a dispatch on their own.  The gate looks
for another robot with the same destination when the action is *deliver*; its comment exempts
waits and yields.  The forwarder sends every action but *wait* to the navigation endpoint.  An
action that is none of the three is therefore driven and never checked.

`drive_checked_iff` determines exactly when a call keeps the promise that a forwarded drive, a
yield apart, has passed the check for its destination.
-/

namespace MiniatureWarehouse

namespace Wire

section Drives

variable {α : Type}

/-- No robot but this one has a reservation for the destination. -/
def NoOtherHolds (g : PolicyGate α (PyVal α)) (robot destination : PyVal α) : Prop :=
  ∀ holder, g.dropoffs.get? holder = some destination → robot = .str holder

/-- The duplicate-destination check finds no other robot at the destination. -/
lemma noOtherHolds_of_check {g : PolicyGate α (PyVal α)} {robot : PyVal α} {name : String}
    (h : checkDuplicateDestination (.str name) g.dropoffs robot = .ok ()) :
    NoOtherHolds g robot (.str name) := by
  intro holder hholder
  have hentry : (holder, PyVal.str name) ∈ g.dropoffs.entries :=
    g.dropoffs.mem_entries_iff.mpr hholder
  have hall := List.any_eq_false.mp (refuseIf_eq_ok.mp h) _ hentry
  have hrobot : isText robot holder = true := by
    simpa [isText] using hall
  cases robot with
  | str s => rw [of_decide_eq_true hrobot]
  | _ => cases hrobot

/-- Only a name is a known location. -/
lemma exists_name_of_known {place : PyVal α} {name : String}
    (h : checkLocationKnown place = .ok name) : ∃ name, place = .str name := by
  cases place with
  | str name => exact ⟨name, rfl⟩
  | _ => cases h

/-- Past the location stage of a drive the destination is a name. -/
lemma exists_name_of_locationStage {robot pickup dropoff action : PyVal α}
    (haction : isText action "wait" = false)
    (h : locationStage robot pickup dropoff action = .ok ()) : ∃ name, dropoff = .str name := by
  simp only [locationStage, haction, Bool.false_eq_true, if_false] at h
  have hknown : ∃ name, checkLocationKnown dropoff = .ok name := by
    cases pickup with
    | null =>
      obtain ⟨_, _, h⟩ := exceptBind_eq_ok.mp h
      obtain ⟨name, hname, -⟩ := exceptBind_eq_ok.mp h
      exact ⟨name, hname⟩
    | _ =>
      obtain ⟨_, _, h⟩ := exceptBind_eq_ok.mp h
      obtain ⟨name, hname, -⟩ := exceptBind_eq_ok.mp h
      exact ⟨name, hname⟩
  obtain ⟨name, hname⟩ := hknown
  exact exists_name_of_known hname

variable [Field α] [LinearOrder α] [IsStrictOrderedRing α] (F : FloatFormat α)
  (iso : IsoTimestamp α) (fresh : FreshnessThresholds α)

/-- `_validate_dispatch_inner` with a note of the destination its last check was made for. -/
def validateDispatchNoted (g : PolicyGate α (PyVal α)) (r : Reading α)
    (robot pickup dropoff action : PyVal α) : Check Unit × Option (PyVal α) :=
  match (do locationStage robot pickup dropoff action; robotStage F iso fresh g r robot) with
  | .error refusal => (.error refusal, none)
  | .ok () =>
    if isText action "deliver" then
      (checkDuplicateDestination dropoff g.dropoffs robot, some dropoff)
    else (.ok (), none)

/-- The note changes nothing of the verdict. -/
lemma validateDispatchNoted_fst (g : PolicyGate α (PyVal α)) (r : Reading α)
    (robot pickup dropoff action : PyVal α) :
    (validateDispatchNoted F iso fresh g r robot pickup dropoff action).1 =
      validateDispatchInner F iso fresh g r robot pickup dropoff action := by
  unfold validateDispatchNoted validateDispatchInner
  cases locationStage robot pickup dropoff action with
  | error refusal => rfl
  | ok u =>
    cases robotStage F iso fresh g r robot with
    | error refusal => rfl
    | ok u =>
      cases hdeliver : isText action "deliver" with
      | false => rfl
      | true => rfl

/-- The stages before the duplicate-destination check pass. -/
def StagesPass (g : PolicyGate α (PyVal α)) (r : Reading α)
    (robot pickup dropoff action : PyVal α) : Prop :=
  locationStage robot pickup dropoff action = .ok () ∧ robotStage F iso fresh g r robot = .ok ()

variable {F iso fresh}

/-- An accepted dispatch has passed the stages, and the check when it is a delivery. -/
lemma validateDispatchInner_eq_ok_iff {g : PolicyGate α (PyVal α)} {r : Reading α}
    {robot pickup dropoff action : PyVal α} :
    validateDispatchInner F iso fresh g r robot pickup dropoff action = .ok () ↔
      StagesPass F iso fresh g r robot pickup dropoff action ∧
        (isText action "deliver" = true →
          checkDuplicateDestination dropoff g.dropoffs robot = .ok ()) := by
  unfold validateDispatchInner StagesPass
  constructor
  · intro h
    obtain ⟨_, hlocation, h⟩ := exceptBind_eq_ok.mp h
    obtain ⟨_, hrobot, h⟩ := exceptBind_eq_ok.mp h
    refine ⟨⟨hlocation, hrobot⟩, fun hdeliver => ?_⟩
    rwa [if_pos hdeliver] at h
  · rintro ⟨⟨hlocation, hrobot⟩, hcheck⟩
    rw [hlocation, hrobot]
    cases hdeliver : isText action "deliver" with
    | false => rfl
    | true => exact hcheck hdeliver

/-- What was noted for a dispatch that passed the stages. -/
lemma validateDispatchNoted_snd {g : PolicyGate α (PyVal α)} {r : Reading α}
    {robot pickup dropoff action : PyVal α}
    (h : StagesPass F iso fresh g r robot pickup dropoff action) :
    (validateDispatchNoted F iso fresh g r robot pickup dropoff action).2 =
      if isText action "deliver" then some dropoff else none := by
  have hstages : (do locationStage robot pickup dropoff action; robotStage F iso fresh g r robot) =
      (.ok () : Check Unit) := by
    rw [h.1, h.2]
    rfl
  simp only [validateDispatchNoted, hstages]
  cases isText action "deliver" with
  | false => rfl
  | true => rfl

/-! ## The call -/

/-- The answer to an accepted dispatch. -/
def dispatchPayload (args : Dict String (PyVal α)) (taskId : String) : Fields α :=
  okStatus [("task_id", .str taskId), ("robot", args.getD "robot" .null),
    ("action", args.getD "action" (.str "deliver")), ("dropoff", args.getD "dropoff" .null),
    ("via", args.getD "via" .null), ("priority", args.getD "priority" (.str "normal")),
    ("duration", args.getD "duration" .null)]

variable (F iso fresh) (reprFloat : PyFloat α → String) (window : ℕ)

/-- The validation a dispatch call leads to. -/
def dispatchVerdict (w : WarehouseTools α) (r : Reading α) (args : Dict String (PyVal α)) :
    Check Unit :=
  validateDispatchInner F iso fresh w.gate r (args.getD "robot" .null) (args.getD "pickup" .null)
    (args.getD "dropoff" .null) (args.getD "action" (.str "deliver"))

variable {F iso fresh} in
/-- Past the generation check, a dispatch is answered with ok exactly when the gate accepts it. -/
lemma runTool_dispatchTask_ok_iff {w : WarehouseTools α} {r : Reading α}
    {args : Dict String (PyVal α)} {fields : Fields α} :
    (runTool F iso fresh w r args .dispatchTask).2 = .ok fields ∧ isOk fields = true ↔
      dispatchVerdict F iso fresh w r args = .ok () ∧
        fields = dispatchPayload args (w.gate.registerTaskInner (text? (args.getD "robot" .null))
          (present? (args.getD "dropoff" .null)) r.now).2 := by
  simp only [runTool, dispatchTask, validateAndRegisterDispatch]
  unfold dispatchVerdict
  rcases PolicyGate.registerIf_cases w.gate (validateDispatchInner F iso fresh w.gate r
      (args.getD "robot" .null) (args.getD "pickup" .null) (args.getD "dropoff" .null)
      (args.getD "action" (.str "deliver"))) (text? (args.getD "robot" .null))
    (present? (args.getD "dropoff" .null)) r.now with
    ⟨refusal, hverdict, hregister⟩ | ⟨hverdict, hregister⟩
  · rw [hregister, hverdict]
    constructor
    · rintro ⟨hfields, hok⟩
      cases refusal with
      | reason reason =>
        obtain rfl := Except.ok.inj hfields
        cases hok
      | raised e => cases hfields
    · rintro ⟨hok, -⟩
      cases hok
  · rw [hregister, hverdict]
    constructor
    · rintro ⟨hfields, -⟩
      exact ⟨rfl, (Except.ok.inj hfields).symm⟩
    · rintro ⟨-, rfl⟩
      exact ⟨rfl, rfl⟩

/-- The generation check of a dispatch call passes. -/
def GenPasses (w : WarehouseTools α) (gen : PyVal α) (args : Dict String (PyVal α)) : Prop :=
  ∃ cur, genOf F reprFloat window w .dispatchTask gen args = .ok ⟨none, cur⟩

variable {F iso fresh reprFloat window}

/-- A dispatch is answered with ok exactly when both checks pass; the answer repeats its
arguments. -/
lemma callTool_dispatchTask_ok_iff {w : WarehouseTools α} {r : Reading α} {gen : PyVal α}
    {args : Dict String (PyVal α)} {fields : Fields α} :
    (callTool F iso fresh reprFloat window w r .dispatchTask gen args).2 = .ok fields ∧
        isOk fields = true ↔
      GenPasses F reprFloat window w gen args ∧ dispatchVerdict F iso fresh w r args = .ok () ∧
        fields = dispatchPayload args (w.gate.registerTaskInner (text? (args.getD "robot" .null))
          (present? (args.getD "dropoff" .null)) r.now).2 := by
  unfold GenPasses genOf callTool
  cases ToolName.dispatchTask.binds args with
  | false => simp
  | true =>
    simp only [Bool.not_true, Bool.false_eq_true, if_false, if_true]
    obtain ⟨stores, checked⟩ := w.stores.check F reprFloat window gen
      (args.getD "idempotency_key" .null)
    cases checked with
    | error e => simp
    | ok checked =>
      obtain ⟨reason, curGen⟩ := checked
      cases reason with
      | some reason =>
        have hrefused : isOk (genReject reason gen (args.getD "idempotency_key" .null)) = false := by
          cases reason <;> rfl
        constructor
        · rintro ⟨hfields, hok⟩
          obtain rfl := Except.ok.inj hfields
          rw [hrefused] at hok
          cases hok
        · rintro ⟨⟨cur, hcur⟩, -⟩
          cases hcur
      | none =>
        have hgate : (∃ cur, (Except.ok ⟨none, curGen⟩ : Except PyErr GenCheckResult) =
            .ok ⟨none, cur⟩) := ⟨curGen, rfl⟩
        rw [and_iff_right hgate]
        exact runTool_dispatchTask_ok_iff (w := ⟨stores, w.gate, w.escalations, w.negotiationSeq⟩)

/-! ## The forwarder -/

omit [Field α] [LinearOrder α] [IsStrictOrderedRing α] in
lemma present?_eq_some_iff {v x : PyVal α} : present? v = some x ↔ isNull v = false ∧ x = v := by
  cases v <;> simp [present?, isNull, eq_comm]

omit [Field α] [LinearOrder α] [IsStrictOrderedRing α] in
/-- The request for an accepted dispatch, read off its arguments. -/
lemma planNav2Request_payload (args : Dict String (PyVal α)) (taskId : String) :
    planNav2Request .dispatchTask (dispatchPayload args taskId) =
      (present? (args.getD "robot" .null)).bind fun robot =>
        if isText (args.getD "action" (.str "deliver")) "wait" = true then
          (present? (args.getD "duration" .null)).bind fun duration =>
            some ⟨"/api/v1/wait", [("robot", robot), ("duration", duration)]⟩
        else
          (present? (args.getD "dropoff" .null)).bind fun destination =>
            some ⟨"/api/v1/navigate", [("robot", robot), ("destination", destination)] ++
              ((present? (args.getD "via" .null)).map fun via => ("via", via)).toList⟩ := by
  simp [planNav2Request, dispatchPayload, okStatus, Dict.find]

omit [Field α] [LinearOrder α] [IsStrictOrderedRing α] in
/-- An accepted dispatch is driven when it names a robot and does not wait, to its dropoff. -/
lemma of_navigate {args : Dict String (PyVal α)} {taskId : String} {request : Request α}
    {destination : PyVal α}
    (hplan : planNav2Request .dispatchTask (dispatchPayload args taskId) = some request)
    (hpath : request.path = "/api/v1/navigate")
    (hdestination : Dict.find request.body "destination" = some destination) :
    isNull (args.getD "robot" .null) = false ∧
      isText (args.getD "action" (.str "deliver")) "wait" = false ∧
      destination = args.getD "dropoff" .null := by
  rw [planNav2Request_payload] at hplan
  obtain ⟨robot, hrobot, hplan⟩ := Option.bind_eq_some_iff.mp hplan
  have hnull := (present?_eq_some_iff.mp hrobot).1
  by_cases hwait : isText (args.getD "action" (.str "deliver")) "wait" = true
  · rw [if_pos hwait] at hplan
    obtain ⟨duration, -, hplan⟩ := Option.bind_eq_some_iff.mp hplan
    obtain rfl := Option.some.inj hplan
    have hother : ("/api/v1/wait" : String) ≠ "/api/v1/navigate" := by decide
    exact absurd hpath hother
  · rw [if_neg hwait] at hplan
    obtain ⟨place, hplace, hplan⟩ := Option.bind_eq_some_iff.mp hplan
    obtain rfl := Option.some.inj hplan
    obtain rfl : place = destination := Option.some.inj hdestination
    exact ⟨hnull, Bool.eq_false_iff.mpr hwait, (present?_eq_some_iff.mp hplace).2⟩

omit [Field α] [LinearOrder α] [IsStrictOrderedRing α] in
/-- Such a dispatch is indeed driven. -/
lemma exists_navigate {args : Dict String (PyVal α)} (taskId : String) {name : String}
    (hrobot : isNull (args.getD "robot" .null) = false)
    (hwait : isText (args.getD "action" (.str "deliver")) "wait" = false)
    (hdropoff : args.getD "dropoff" .null = .str name) :
    ∃ request, planNav2Request .dispatchTask (dispatchPayload args taskId) = some request ∧
      request.path = "/api/v1/navigate" ∧
      Dict.find request.body "destination" = some (.str name) := by
  rw [planNav2Request_payload, present?_eq_some_iff.mpr ⟨hrobot, rfl⟩, hwait, hdropoff]
  exact ⟨_, rfl, rfl, rfl⟩

variable (F iso fresh reprFloat window)

/-- **What the gate owes a forwarded drive.**  When a dispatch is answered with ok and the forwarder
maps the answer to a navigation whose action is not a yield, the duplicate-destination check was
made for exactly that destination, and no other robot holds it. -/
def DriveChecked (w : WarehouseTools α) (r : Reading α) (gen : PyVal α)
    (args : Dict String (PyVal α)) : Prop :=
  ∀ fields request destination,
    (callTool F iso fresh reprFloat window w r .dispatchTask gen args).2 = .ok fields →
    isOk fields = true →
    planNav2Request .dispatchTask fields = some request →
    request.path = "/api/v1/navigate" →
    Dict.find request.body "destination" = some destination →
    isText (args.getD "action" (.str "deliver")) "yield" = false →
    (validateDispatchNoted F iso fresh w.gate r (args.getD "robot" .null)
        (args.getD "pickup" .null) (args.getD "dropoff" .null)
        (args.getD "action" (.str "deliver"))).2 = some destination ∧
      NoOtherHolds w.gate (args.getD "robot" .null) destination

/-- The calls that drive a robot past the check: they name a robot, pass every earlier check, and
their action is none the gate and the forwarder agree about. -/
def DrivesUnchecked (w : WarehouseTools α) (r : Reading α) (gen : PyVal α)
    (args : Dict String (PyVal α)) : Prop :=
  GenPasses F reprFloat window w gen args ∧
  isNull (args.getD "robot" .null) = false ∧
  isText (args.getD "action" (.str "deliver")) "deliver" = false ∧
  isText (args.getD "action" (.str "deliver")) "yield" = false ∧
  isText (args.getD "action" (.str "deliver")) "wait" = false ∧
  StagesPass F iso fresh w.gate r (args.getD "robot" .null) (args.getD "pickup" .null)
    (args.getD "dropoff" .null) (args.getD "action" (.str "deliver"))

variable {F iso fresh reprFloat window} in
/-- A call that drives past the check is accepted and driven, and nothing was noted for it. -/
lemma DrivesUnchecked.not_checked {w : WarehouseTools α} {r : Reading α} {gen : PyVal α}
    {args : Dict String (PyVal α)}
    (h : DrivesUnchecked F iso fresh reprFloat window w r gen args) :
    ¬ DriveChecked F iso fresh reprFloat window w r gen args := by
  intro hchecked
  obtain ⟨hgen, hrobot, hdeliver, hyield, hwait, hstages⟩ := h
  obtain ⟨name, hname⟩ := exists_name_of_locationStage hwait hstages.1
  have hverdict : dispatchVerdict F iso fresh w r args = .ok () :=
    validateDispatchInner_eq_ok_iff.mpr
      ⟨hstages, fun h => absurd (h.symm.trans hdeliver) (by simp)⟩
  obtain ⟨hanswer, hok⟩ := callTool_dispatchTask_ok_iff.mpr ⟨hgen, hverdict, rfl⟩
  obtain ⟨request, hplan, hpath, hdestination⟩ := exists_navigate _ hrobot hwait hname
  have hnoted := (hchecked _ request _ hanswer hok hplan hpath hdestination hyield).1
  rw [validateDispatchNoted_snd hstages, hdeliver] at hnoted
  cases hnoted

/-- **A forwarded drive was checked**, from any state of the tools and on any arguments, exactly
when the call is none of those that drive past the check. -/
theorem drive_checked_iff (w : WarehouseTools α) (r : Reading α) (gen : PyVal α)
    (args : Dict String (PyVal α)) :
    DriveChecked F iso fresh reprFloat window w r gen args ↔
      ¬ DrivesUnchecked F iso fresh reprFloat window w r gen args := by
  constructor
  · exact fun hchecked hunchecked => hunchecked.not_checked hchecked
  · intro hno fields request destination hanswer hok hplan hpath hdestination hyield
    obtain ⟨hgen, hverdict, rfl⟩ := callTool_dispatchTask_ok_iff.mp ⟨hanswer, hok⟩
    obtain ⟨hstages, hcheck⟩ := validateDispatchInner_eq_ok_iff.mp hverdict
    obtain ⟨hrobot, hwait, rfl⟩ := of_navigate hplan hpath hdestination
    have hdeliver : isText (args.getD "action" (.str "deliver")) "deliver" = true := by
      by_contra hdeliver
      exact hno ⟨hgen, hrobot, Bool.eq_false_iff.mpr hdeliver, hyield, hwait, hstages⟩
    refine ⟨?_, ?_⟩
    · rw [validateDispatchNoted_snd hstages, hdeliver]
      rfl
    · obtain ⟨name, hname⟩ := exists_name_of_locationStage hwait hstages.1
      have hdestination := hcheck hdeliver
      rw [hname] at hdestination ⊢
      exact noOtherHolds_of_check hdestination

end Drives

/-! ### An action the gate does not know -/

section Pickup

/-- The epoch second a state file is stamped with. -/
def isoMidnight : IsoTimestamp ℚ := fun s =>
  if s = "2026-01-01T00:00:00+00:00" then some (.ok (.fin 1767225600)) else none

/-- A state file with two charged robots, read a tenth of a second after it was written. -/
def midnightReading : Reading ℚ where
  state := .ok (.dict [("timestamp", .str "2026-01-01T00:00:00+00:00"),
    ("robots", .dict [("bot1", .dict [("battery", .int 80)]),
      ("bot2", .dict [("battery", .int 90)])])])
  now := .fin (1767225600 + 1 / 10)

/-- The arguments of a call that sends a robot to the first shelf. -/
def toFirstShelf (robot action : String) : Dict String (PyVal ℚ) :=
  .set (.set (.set .empty "robot" (.str robot)) "dropoff" (.str "shelf_1")) "action" (.str action)

/-- The tools after a delivery of the first robot to the first shelf. -/
def afterDelivery : WarehouseTools ℚ :=
  (server (.exact ℚ) isoMidnight .default (fun _ => "nan") 8).run (.init .empty ∅)
    [.call midnightReading "dispatch_task" ((toFirstShelf "bot1" "deliver").set "gen_id" (.int 1))]

/-- A delivery to a shelf goes through the check. -/
theorem delivery_checked :
    DriveChecked (.exact ℚ) isoMidnight .default (fun _ => "nan") 8 afterDelivery midnightReading
      (.int 1) (toFirstShelf "bot2" "deliver") := by
  refine (drive_checked_iff (.exact ℚ) isoMidnight .default (fun _ => "nan") 8 afterDelivery
    midnightReading (.int 1) (toFirstShelf "bot2" "deliver")).mpr ?_
  rintro ⟨-, -, hdeliver, -⟩
  have hdeliver' : isText ((toFirstShelf "bot2" "deliver").getD "action" (.str "deliver"))
      "deliver" = true := rfl
  exact absurd hdeliver (by rw [hdeliver']; exact Bool.noConfusion)

/-- The second robot is driven to the shelf the first one holds, under an action of its own. -/
theorem pickup_drives_unchecked :
    afterDelivery.gate.dropoffs.get? "bot1" = some (.str "shelf_1") ∧
      (maybeForward "dispatch_task" (callTool (.exact ℚ) isoMidnight .default (fun _ => "nan") 8
        afterDelivery midnightReading .dispatchTask (.int 1)
        (toFirstShelf "bot2" "pickup")).2).map Request.path = some "/api/v1/navigate" ∧
      ¬ DriveChecked (.exact ℚ) isoMidnight .default (fun _ => "nan") 8 afterDelivery
        midnightReading (.int 1) (toFirstShelf "bot2" "pickup") := by
  have htext : (afterDelivery.gate.dropoffs.get? "bot1").bind text? = some "shelf_1" := by
    decide +kernel
  have hheld : afterDelivery.gate.dropoffs.get? "bot1" = some (.str "shelf_1") := by
    obtain ⟨place, hplace, hname⟩ := Option.bind_eq_some_iff.mp htext
    rw [hplace, eq_str hname]
  have hpath : (maybeForward "dispatch_task" (callTool (.exact ℚ) isoMidnight .default
      (fun _ => "nan") 8 afterDelivery midnightReading .dispatchTask (.int 1)
      (toFirstShelf "bot2" "pickup")).2).map Request.path = some "/api/v1/navigate" := by
    decide +kernel
  have hstages : StagesPass (.exact ℚ) isoMidnight .default afterDelivery.gate midnightReading
      (.str "bot2") .null (.str "shelf_1") (.str "pickup") := by
    constructor <;> decide +kernel
  have hunchecked : DrivesUnchecked (.exact ℚ) isoMidnight .default (fun _ => "nan") 8
      afterDelivery midnightReading (.int 1) (toFirstShelf "bot2" "pickup") :=
    ⟨⟨0, by decide +kernel⟩, rfl, rfl, rfl, rfl, hstages⟩
  exact ⟨hheld, hpath, hunchecked.not_checked⟩

end Pickup

end Wire

end MiniatureWarehouse
