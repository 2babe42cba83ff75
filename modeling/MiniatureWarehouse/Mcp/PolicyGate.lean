import MiniatureWarehouse.Interfaces.Locations
import MiniatureWarehouse.Interfaces.Safety
import Mathlib.Data.Finset.Basic

/-!
# The policy gate

Every command that moves a robot passes the gate.  It reads the state snapshot, checks the
command rule by rule, and on acceptance records it: the active task of the robot, the time of its
last command, and the destination the robot is now heading for.  The last of these is what the
duplicate-destination rule looks at.

Validation and registration run under one lock, so a call is one step of the model.  What the
step reads besides the gate is the content of the state file and the wall clock; the parser of
ISO timestamps is a parameter.
-/

namespace MiniatureWarehouse

/-- `datetime.fromisoformat(s).timestamp()`: nothing when the text does not parse, and otherwise
the epoch seconds or what the conversion raises. -/
abbrev IsoTimestamp (α : Type) := String → Option (Except PyErr (PyFloat α))

/-- The reasons the gate refuses a command for. -/
inductive RejectReason
  | missingLocation
  | unknownLocation
  | sameLocation
  | waitRequiresRobot
  | stateTimestampCorrupt
  | unknownRobot
  | robotUnavailable
  | robotStale
  | batteryCritical
  | batteryLow
  | robotInEmergency
  | rateLimited
  | duplicateDestination
  | chargingNotNeeded
  deriving DecidableEq, Repr

/-- The text a refusal is reported with. -/
def RejectReason.text : RejectReason → String
  | missingLocation => "missing_location"
  | unknownLocation => "unknown_location"
  | sameLocation => "same_location"
  | waitRequiresRobot => "wait_requires_robot"
  | stateTimestampCorrupt => "state_timestamp_corrupt"
  | unknownRobot => "unknown_robot"
  | robotUnavailable => "robot_unavailable"
  | robotStale => "robot_stale"
  | batteryCritical => "battery_critical"
  | batteryLow => "battery_low"
  | robotInEmergency => "robot_in_emergency"
  | rateLimited => "rate_limited"
  | duplicateDestination => "duplicate_destination"
  | chargingNotNeeded => "charging_not_needed"

/-- How a check ends when it does not pass: with a reason, or with an exception of the language
where the state file has an unexpected shape. -/
inductive Refusal
  | reason (r : RejectReason)
  | raised (e : PyErr)
  deriving DecidableEq, Repr

/-- The outcome of a check. -/
abbrev Check (β : Type) := Except Refusal β

/-- A check that passes or gives its reason. -/
def refuseIf (p : Bool) (r : RejectReason) : Check Unit :=
  if p then .error (.reason r) else .ok ()

@[simp] theorem refuseIf_eq_ok {p : Bool} {r : RejectReason} {u : Unit} :
    refuseIf p r = .ok u ↔ p = false := by
  cases p <;> simp [refuseIf]

section Checks

variable {α : Type} [Field α] [LinearOrder α] [IsStrictOrderedRing α] (F : FloatFormat α)

/-- `FreshnessThresholds`: configuration may only tighten the two windows, so a value above the
default, or not positive, or with the windows the wrong way round, cannot be built. -/
structure FreshnessThresholds (α : Type) [Field α] [LinearOrder α] where
  staleAfter : α
  unavailableAfter : α
  stale_pos : 0 < staleAfter
  stale_le_default : staleAfter ≤ 1 / 2
  unavailable_le_default : unavailableAfter ≤ 2
  stale_le_unavailable : staleAfter ≤ unavailableAfter

/-- The windows `STALE_AFTER_S` and `UNAVAILABLE_AFTER_S`. -/
def FreshnessThresholds.default : FreshnessThresholds α where
  staleAfter := 1 / 2
  unavailableAfter := 2
  stale_pos := by norm_num
  stale_le_default := le_rfl
  unavailable_le_default := le_rfl
  stale_le_unavailable := by norm_num

/-- `RATE_LIMIT_S`. -/
def rateLimit : α := 1 / 2

/-- `CHARGING_NOT_NEEDED_ABOVE`. -/
def chargingNotNeededAbove : α := 80

/-- `check_location_known`. -/
def checkLocationKnown : Option String → Check Unit
  | none => .error (.reason .missingLocation)
  | some name => refuseIf (!isKnownLocation name) .unknownLocation

/-- `check_same_location`. -/
def checkSameLocation (pickup dropoff : Option String) : Check Unit :=
  refuseIf (pickup.isSome && pickup == dropoff) .sameLocation

/-- `check_battery`: an absent level passes, and what is not a number does not compare. -/
def checkBattery : PyVal α → Check Unit
  | .null => .ok ()
  | battery =>
    match battery.toNum? with
    | none => .error (.raised .typeError)
    | some pct => do
      refuseIf (decide (batteryIsCritical pct.value)) .batteryCritical
      refuseIf (!decide (batteryAllowsNewTask pct.value)) .batteryLow

/-- `check_robot_state`; a snapshot without a usable timestamp counts as fresh. -/
def checkRobotState (fresh : FreshnessThresholds α) (snapshot : PyVal α) (now : PyFloat α)
    (snapshotTs : Option (PyFloat α)) : Check Unit :=
  match snapshot, snapshotTs with
  | .null, _ => .error (.reason .unknownRobot)
  | _, none => .ok ()
  | _, some ts => do
    let age := F.sub now ts
    refuseIf (decide (.fin fresh.unavailableAfter < age)) .robotUnavailable
    refuseIf (decide (.fin fresh.staleAfter < age)) .robotStale

/-- `check_emergency`. -/
def checkEmergency (robot : String) (emergency : Finset String) : Check Unit :=
  refuseIf (decide (robot ∈ emergency)) .robotInEmergency

/-- `check_rate_limit`. -/
def checkRateLimit (robot : String) (lastCmd : Dict String (PyFloat α)) (now : PyFloat α) :
    Check Unit :=
  match lastCmd.get? robot with
  | none => .ok ()
  | some last => refuseIf (decide (F.sub now last < .fin rateLimit)) .rateLimited

/-- `check_duplicate_destination`: two distinct robots never head for one place. -/
def checkDuplicateDestination (dropoff : Option String) (dropoffs : Dict String String)
    (robot : Option String) : Check Unit :=
  match dropoff with
  | none => .ok ()
  | some dropoff =>
    refuseIf (dropoffs.entries.any fun e => e.2 = dropoff ∧ some e.1 ≠ robot) .duplicateDestination

/-- A robot passes the duplicate-destination rule exactly when no other robot has the place. -/
theorem checkDuplicateDestination_eq_ok {dropoff robot : String} {dropoffs : Dict String String}
    {u : Unit} :
    checkDuplicateDestination (some dropoff) dropoffs (some robot) = .ok u ↔
      ∀ other, other ≠ robot → dropoffs.get? other ≠ some dropoff := by
  have hmem : ∀ other, dropoffs.get? other = some dropoff ↔ (other, dropoff) ∈ dropoffs.entries :=
    fun other => dropoffs.mem_entries_iff.symm
  simp only [checkDuplicateDestination, refuseIf_eq_ok, List.any_eq_false, decide_eq_true_eq]
  constructor
  · intro h other hne hget
    have hentry : (other, dropoff) ∈ dropoffs.entries := (hmem other).mp hget
    exact h (other, dropoff) hentry ⟨rfl, by simpa using hne⟩
  · rintro h ⟨other, place⟩ hentry ⟨hplace, hne⟩
    have hplace : place = dropoff := hplace
    rw [hplace] at hentry
    exact h other (by simpa using hne) ((hmem other).mpr hentry)

/-! ## Reading the state file -/

/-- `v or {}` followed by `.get`: a falsy value is the empty mapping, and any other value that is
no mapping has no such method. -/
def mappingOrEmpty : PyVal α → Check (List (String × PyVal α))
  | .dict es => .ok es
  | .null | .bool false | .int 0 | .str "" | .list [] => .ok []
  | .float x => if x = .fin 0 then .ok [] else .error (.raised .attributeError)
  | _ => .error (.raised .attributeError)

/-- `_read_state`: what the store returns, the empty mapping when there is no file. -/
def readState (state : Except PyErr (PyVal α)) : Check (List (String × PyVal α)) :=
  match state with
  | .error e => .error (.raised e)
  | .ok v => mappingOrEmpty v

/-- `_timestamp_is_corrupt`: a present text that does not parse. -/
def timestampIsCorrupt (iso : IsoTimestamp α) : Option (PyVal α) → Bool
  | some (.str ts) => ts ≠ "" && (iso ts).isNone
  | _ => false

/-- `_snapshot_ts`: a conversion that raises a `ValueError` counts as no timestamp. -/
def snapshotTs (iso : IsoTimestamp α) : Option (PyVal α) → Check (Option (PyFloat α))
  | some (.str ts) =>
    match iso ts with
    | none | some (.error .valueError) => .ok none
    | some (.error e) => .error (.raised e)
    | some (.ok t) => .ok (some t)
  | _ => .ok none

/-- What a call reads besides the gate: the state file and the clock. -/
structure Reading (α : Type) where
  state : Except PyErr (PyVal α)
  now : PyFloat α

/-- The stage both validations share: the snapshot of the robot, once it is known to be fresh. -/
def freshSnapshot (iso : IsoTimestamp α) (fresh : FreshnessThresholds α) (r : Reading α)
    (robot : String) : Check (PyVal α) := do
  let state ← readState r.state
  let timestamp := Dict.find state "timestamp"
  refuseIf (timestampIsCorrupt iso timestamp) .stateTimestampCorrupt
  let robots ← mappingOrEmpty ((Dict.find state "robots").getD .null)
  let snapshot := (Dict.find robots robot).getD .null
  let ts ← snapshotTs iso timestamp
  checkRobotState F fresh snapshot r.now ts
  return snapshot

end Checks

/-! ## The gate -/

/-- `PolicyGate`: the bookkeeping of the fleet.  A reservation holds the destination as the caller
gave it: the name of a place, or on the wire any value at all. -/
structure PolicyGate (α : Type) (δ : Type := String) where
  activeTasks : Dict String String
  dropoffs : Dict String δ
  emergency : Finset String
  lastCmd : Dict String (PyFloat α)
  taskSeq : ℕ

/-- `DispatchResult`: the id of the registered task, or why there is none. -/
abbrev DispatchResult := Check String

namespace PolicyGate

section Bookkeeping

variable {α δ : Type}

/-- The gate as it is built, with a seed for the emergency set. -/
def init (emergency : Finset String) : PolicyGate α δ := ⟨.empty, .empty, emergency, .empty, 0⟩

/-- `set_emergency`. -/
def setEmergency (g : PolicyGate α δ) (robot : String) (active : Bool) : PolicyGate α δ :=
  { g with emergency := if active then insert robot g.emergency else g.emergency.erase robot }

/-- `_register_task_inner`. -/
def registerTaskInner (g : PolicyGate α δ) (robot : Option String) (dropoff : Option δ)
    (now : PyFloat α) : PolicyGate α δ × String :=
  let seq := g.taskSeq + 1
  let taskId := "nav_" ++ format03d seq
  match robot with
  | none => ({ g with taskSeq := seq }, taskId)
  | some robot =>
    ({ g with
        taskSeq := seq
        activeTasks := g.activeTasks.set robot taskId
        lastCmd := g.lastCmd.set robot now
        dropoffs := match dropoff with
          | some dropoff => g.dropoffs.set robot dropoff
          | none => g.dropoffs },
      taskId)

/-- The end of both validations: register what passed, leave the gate alone otherwise. -/
def registerIf (g : PolicyGate α δ) (verdict : Check Unit) (robot : Option String)
    (dropoff : Option δ) (now : PyFloat α) : PolicyGate α δ × DispatchResult :=
  match verdict with
  | .error refusal => (g, .error refusal)
  | .ok () =>
    let (g, taskId) := g.registerTaskInner robot dropoff now
    (g, .ok taskId)

/-- `resolve_and_clear_active`: the reservation goes with the active task. -/
def resolveAndClearActive (g : PolicyGate α δ) (robot : String) :
    PolicyGate α δ × Option String :=
  ({ g with activeTasks := g.activeTasks.erase robot, dropoffs := g.dropoffs.erase robot },
    g.activeTasks.get? robot)

/-- `resolve_and_clear_by_task_id`: the same, for the robot whose active task this is. -/
def resolveAndClearByTaskId (g : PolicyGate α δ) (taskId : String) :
    PolicyGate α δ × Option String :=
  match g.activeTasks.entries.find? fun e => e.2 = taskId with
  | none => (g, none)
  | some (owner, _) =>
    ({ g with activeTasks := g.activeTasks.erase owner, dropoffs := g.dropoffs.erase owner },
      some owner)

end Bookkeeping

variable {α : Type}

section Validation

variable [Field α] [LinearOrder α] [IsStrictOrderedRing α] (F : FloatFormat α)
  (iso : IsoTimestamp α) (fresh : FreshnessThresholds α)

/-- The location stage of a dispatch, skipped for a wait. -/
def locationStage (robot pickup dropoff : Option String) (action : String) : Check Unit :=
  if action ≠ "wait" then do
    if pickup.isSome then checkLocationKnown pickup
    checkLocationKnown dropoff
    checkSameLocation pickup dropoff
  else refuseIf robot.isNone .waitRequiresRobot

/-- The robot stage of a dispatch, run only when a robot is named. -/
def robotStage {δ : Type} (g : PolicyGate α δ) (r : Reading α) : Option String → Check Unit
  | none => .ok ()
  | some robot => do
    let snapshot ← freshSnapshot F iso fresh r robot
    checkBattery ((snapshot.get? "battery").getD .null)
    checkEmergency robot g.emergency
    checkRateLimit F robot g.lastCmd r.now

/-- `_validate_dispatch_inner`: the first reason found, in the order of the checks. -/
def validateDispatchInner (g : PolicyGate α) (r : Reading α) (robot pickup dropoff : Option String)
    (action : String) : Check Unit := do
  locationStage robot pickup dropoff action
  robotStage F iso fresh g r robot
  if action = "deliver" then checkDuplicateDestination dropoff g.dropoffs robot

/-- `validate_and_register_dispatch`. -/
def validateAndRegisterDispatch (g : PolicyGate α) (r : Reading α)
    (robot pickup dropoff : Option String) (action : String) : PolicyGate α × DispatchResult :=
  g.registerIf (validateDispatchInner F iso fresh g r robot pickup dropoff action) robot dropoff
    r.now

/-- The checks of a charging dispatch: no battery gate, no rate limit and no exclusivity, but a
robot that is charged enough is refused. -/
def validateChargingInner (g : PolicyGate α) (r : Reading α) (robot : String) : Check Unit := do
  let snapshot ← freshSnapshot F iso fresh r robot
  checkEmergency robot g.emergency
  match (snapshot.get? "battery").getD .null with
  | .null => .ok ()
  | battery =>
    match battery.toNum? with
    | none => .error (.raised .typeError)
    | some pct =>
      refuseIf (decide (.fin chargingNotNeededAbove < pct.value)) .chargingNotNeeded

/-- `validate_and_register_charging`. -/
def validateAndRegisterCharging (g : PolicyGate α) (r : Reading α) (robot : String) :
    PolicyGate α × DispatchResult :=
  g.registerIf (validateChargingInner F iso fresh g r robot) (some robot) (some "charging_station")
    r.now

end Validation

/-! ## What a call does to the bookkeeping -/

/-- A registration changes the entries of its own robot only. -/
theorem registerTaskInner_dropoffs (g : PolicyGate α) (robot dropoff : String) (now : PyFloat α)
    (r : String) :
    (g.registerTaskInner (some robot) (some dropoff) now).1.dropoffs.get? r =
      if r = robot then some dropoff else g.dropoffs.get? r :=
  g.dropoffs.get?_set robot dropoff r

theorem registerTaskInner_activeTasks (g : PolicyGate α) (robot : String)
    (dropoff : Option String) (now : PyFloat α) (r : String) :
    (g.registerTaskInner (some robot) dropoff now).1.activeTasks.contains r =
      (r = robot || g.activeTasks.contains r) := by
  have hget : (g.registerTaskInner (some robot) dropoff now).1.activeTasks.get? r =
      if r = robot then some ("nav_" ++ format03d (g.taskSeq + 1)) else g.activeTasks.get? r :=
    g.activeTasks.get?_set robot _ r
  rw [Dict.contains, hget, Dict.contains]
  by_cases hr : r = robot
  · simp [hr]
  · simp [hr]

/-- A refused call leaves the gate alone, an accepted one registers. -/
theorem registerIf_cases {δ : Type} (g : PolicyGate α δ) (verdict : Check Unit)
    (robot : Option String) (dropoff : Option δ) (now : PyFloat α) :
    (∃ refusal, verdict = .error refusal ∧
      g.registerIf verdict robot dropoff now = (g, .error refusal)) ∨
    (verdict = .ok () ∧
      g.registerIf verdict robot dropoff now =
        ((g.registerTaskInner robot dropoff now).1,
          .ok (g.registerTaskInner robot dropoff now).2)) := by
  cases verdict with
  | error refusal => exact .inl ⟨refusal, rfl, rfl⟩
  | ok u => exact .inr ⟨rfl, rfl⟩

/-- An accepted delivery has its destination to itself. -/
theorem validateDispatchInner_deliver [Field α] [LinearOrder α] [IsStrictOrderedRing α]
    {F : FloatFormat α} {iso : IsoTimestamp α} {fresh : FreshnessThresholds α} {g : PolicyGate α}
    {r : Reading α} {robot dropoff : String} {pickup : Option String}
    (h : g.validateDispatchInner F iso fresh r (some robot) pickup (some dropoff) "deliver" =
      .ok ()) :
    ∀ other, other ≠ robot → g.dropoffs.get? other ≠ some dropoff := by
  have hdup : checkDuplicateDestination (some dropoff) g.dropoffs (some robot) = .ok () := by
    unfold validateDispatchInner at h
    cases hloc : locationStage (some robot) pickup (some dropoff) "deliver" with
    | error refusal => simp [hloc, bind, Except.bind] at h
    | ok u =>
      cases hrob : g.robotStage F iso fresh r (some robot) with
      | error refusal => simp [hloc, hrob, bind, Except.bind] at h
      | ok u => simpa [hloc, hrob, bind, Except.bind] using h
  exact checkDuplicateDestination_eq_ok.mp hdup

end PolicyGate

end MiniatureWarehouse
