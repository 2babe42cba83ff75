import MiniatureWarehouse.Interfaces.Safety
import Mathlib.Data.Finset.Image

/-!
# The decision logic of the emergency guardian

The pure part of the guardian: the snapshot of one robot a tick judges, the displacement gate
of the pose-freshness rule, the seven rules of `evaluate`, the two consumers of its decisions
(the edge latch and the stop request), and the small trackers the node feeds between ticks.

Arithmetic is done in an arbitrary `FloatFormat`, with the mathematical library as a second
parameter.  A method that can raise returns the exception next to the state it leaves behind,
because the exception does not undo the assignments made before it.
-/

namespace MiniatureWarehouse

/-! ## Snapshots and decisions -/

/-- `BotState`: one robot as a tick sees it.  `none` stands for an input never received. -/
structure BotState (α : Type*) where
  bot : String
  x : Option (PyFloat α)
  y : Option (PyFloat α)
  batteryPct : Option (PyFloat α)
  blockedDuration : PyFloat α
  poseAge : Option (PyFloat α) := none
  odomDispSincePose : Option (PyFloat α) := none
  odomDyawSincePose : Option (PyFloat α) := none
  operatorStopRequested : Bool := false
  scanAge : Option (PyFloat α) := none
  odomSeen : Bool := false
  terrainSource : Option String := none
  terrainVerdict : Option String := none
  terrainHealthEpoch : Option ℕ := none

/-- The two actions a decision can ask for. -/
inductive Action
  | estop
  | recovery
  deriving DecidableEq, Repr

/-- The reasons a decision can carry. -/
inductive Reason
  | nearCollision
  | batteryCritical
  | blockedTimeout
  | poseStale
  | operatorStopRequest
  | scanStale
  | terrainHealth
  deriving DecidableEq, Repr

/-- `Decision`: a reflex action the node must take, with the optional detail of its event. -/
structure Decision (α : Type*) where
  bot : String
  action : Action
  reason : Reason
  detail : Option (PyVal α) := none

/-- The alarm a decision belongs to. -/
def Decision.key {α : Type*} (d : Decision α) : String × Reason := (d.bot, d.reason)

/-- The spelling of a reason in events and payloads. -/
def Reason.name : Reason → String
  | nearCollision => "near_collision"
  | batteryCritical => "battery_critical"
  | blockedTimeout => "blocked_timeout"
  | poseStale => "pose_stale"
  | operatorStopRequest => "operator_stop_request"
  | scanStale => "scan_stale"
  | terrainHealth => "terrain_health"

/-- The thresholds the node injects into `evaluate`. -/
structure GuardConfig (α : Type*) where
  distanceThreshold : PyFloat α
  blockedTimeout : PyFloat α
  poseFreshnessTimeout : PyFloat α
  scanFreshnessTimeout : PyFloat α
  poseGateMotionEpsilon : Option (PyFloat α) := none
  poseGateAngularEpsilon : Option (PyFloat α) := none

section Logic

variable {α : Type*} [Field α] [LinearOrder α] [IsStrictOrderedRing α]

/-! ## Planar geometry -/

section Geometry

variable (F : FloatFormat α) (L : MathLib α)

/-- `distance`: Euclidean distance between two planar points. -/
def distance (ax ay bx b_y : PyFloat α) : PyFloat α := L.hypot (F.sub ax bx) (F.sub ay b_y)

/-- `wrap_angle`: the angle folded into one turn. -/
def wrapAngle (a : PyFloat α) : Except PyErr (PyFloat α) := do
  let s ← trig L.sin a
  let c ← trig L.cos a
  return L.atan2 s c

/-- `yaw_from_quaternion`: the planar heading of an orientation. -/
def yawFromQuaternion (x y z w : PyFloat α) : PyFloat α :=
  let sinyCosp := F.mul (.fin 2) (F.add (F.mul w z) (F.mul x y))
  let cosyCosp := F.sub (.fin 1) (F.mul (.fin 2) (F.add (F.mul y y) (F.mul z z)))
  L.atan2 sinyCosp cosyCosp

end Geometry

/-! ## The displacement gate -/

/-- `_has_pose`. -/
def hasPose (b : BotState α) : Bool :=
  match b.x, b.y with
  | some x, some y => x.isFinite && y.isFinite
  | _, _ => false

/-- `pose_gate_open`: whether a silent localizer is evidence of a fault.  Every unknown opens
the gate; known readings open it only past their epsilon. -/
def poseGateOpen (b : BotState α) (motionEpsilon angularEpsilon : Option (PyFloat α)) : Bool :=
  match motionEpsilon, angularEpsilon with
  | some motionEps, some angularEps =>
    if !(motionEps.isFinite && angularEps.isFinite) then true
    else match b.odomDispSincePose, b.odomDyawSincePose with
      | some disp, some dyaw =>
        if !(disp.isFinite && dyaw.isFinite) then true
        else decide (motionEps < disp) || decide (angularEps < dyaw.abs)
      | _, _ => true
  | _, _ => true

omit [IsStrictOrderedRing α] in
/-- The gate reads its two accumulators alike: an unknown reading, one that is not finite or one
past its epsilon opens it, and so does an epsilon that is missing or no number. -/
lemma poseGateOpen_iff {b : BotState α} {motionEpsilon angularEpsilon : Option (PyFloat α)} :
    poseGateOpen b motionEpsilon angularEpsilon = true ↔
      ∀ m a, motionEpsilon = some m → angularEpsilon = some a →
        m.isFinite = true → a.isFinite = true →
        (∀ d, b.odomDispSincePose = some d → FloatFormat.Past m d) ∨
          ∀ d, b.odomDyawSincePose = some d → FloatFormat.Past a d.abs := by
  unfold poseGateOpen FloatFormat.Past
  cases motionEpsilon with
  | none => simp
  | some m =>
    cases angularEpsilon with
    | none => simp
    | some a =>
      by_cases heps : m.isFinite = true ∧ a.isFinite = true
      · obtain ⟨hm, ha⟩ := heps
        cases b.odomDispSincePose with
        | none => simp [hm, ha]
        | some disp =>
          cases b.odomDyawSincePose with
          | none => simp [hm, ha]
          | some dyaw =>
            by_cases hd : disp.isFinite = true <;> by_cases hy : dyaw.isFinite = true <;>
              simp [hm, ha, hd, hy]
      · have hbad : (m.isFinite && a.isFinite) = false := by
          rwa [← Bool.not_eq_true, Bool.and_eq_true]
        simpa [hbad] using fun hm ha => absurd ⟨hm, ha⟩ heps

/-- `age_is_unknown`: never received, not a number, or negative. -/
def ageIsUnknown : Option (PyFloat α) → Bool
  | none => true
  | some age => age.isNaN || decide (age < .fin 0)

/-- `_reportable_age`: the age an event detail may carry. -/
def reportableAge (age : Option (PyFloat α)) : Option (PyFloat α) :=
  match age with
  | some a => if ageIsUnknown age || !a.isFinite then none else some a
  | none => none

/-! ## The rules of a tick -/

/-- A float of an event detail, or the language's `None`. -/
def PyVal.ofFloat? : Option (PyFloat α) → PyVal α
  | some x => .float x
  | none => .null

/-- A string of an event detail, or the language's `None`. -/
def PyVal.ofStr? : Option String → PyVal α
  | some s => .str s
  | none => .null

/-- A counter of an event detail, or the language's `None`. -/
def PyVal.ofNat? : Option ℕ → PyVal α
  | some n => .int n
  | none => .null

section Evaluate

variable (F : FloatFormat α) (L : MathLib α) (cfg : GuardConfig α)

/-- The positions block of a proximity event. -/
def nearCollisionDetail (d : PyFloat α) (a b : BotState α) (otherRobot : String) : PyVal α :=
  let position (s : BotState α) := PyVal.dict [("x", .ofFloat? s.x), ("y", .ofFloat? s.y)]
  .ofPairs [("distance", .float d), ("other_robot", .str otherRobot),
    (a.bot ++ "_position", position a), (b.bot ++ "_position", position b)]

/-- The measured distance of two robots whose poses are both known. -/
def interBotDistance (a b : BotState α) : Option (PyFloat α) :=
  if hasPose a && hasPose b then
    match a.x, a.y, b.x, b.y with
    | some ax, some ay, some bx, some b_y => some (distance F L ax ay bx b_y)
    | _, _, _, _ => none
  else none

/-- Rule (1): proximity stops both robots, each told about the other. -/
def nearCollisionRule (a b : BotState α) : List (Decision α) :=
  match interBotDistance F L a b with
  | some d =>
    if d < cfg.distanceThreshold then
      [{ bot := a.bot, action := .estop, reason := .nearCollision,
         detail := some (nearCollisionDetail d a b b.bot) },
       { bot := b.bot, action := .estop, reason := .nearCollision,
         detail := some (nearCollisionDetail d a b a.bot) }]
    else []
  | none => []

/-- Rule (2): a finite battery reading at or below the critical threshold. -/
def batteryRule (b : BotState α) : Option (Decision α) :=
  match b.batteryPct with
  | some pct =>
    if pct.isFinite && decide (batteryIsCritical pct) then
      some { bot := b.bot, action := .estop, reason := .batteryCritical }
    else none
  | none => none

/-- Rule (3): blocked for longer than the timeout.  A recovery, never a stop. -/
def blockedRule (b : BotState α) : Option (Decision α) :=
  if cfg.blockedTimeout < b.blockedDuration then
    some { bot := b.bot, action := .recovery, reason := .blockedTimeout }
  else none

/-- Rule (4): a stale pose while the displacement gate is open. -/
def poseRule (b : BotState α) : Option (Decision α) :=
  match b.poseAge with
  | none => none
  | some age =>
    if !(ageIsUnknown (some age) || decide (cfg.poseFreshnessTimeout < age)) then none
    else if !poseGateOpen b cfg.poseGateMotionEpsilon cfg.poseGateAngularEpsilon then none
    else some
      { bot := b.bot, action := .estop, reason := .poseStale,
        detail := some (.dict [("pose_age", .ofFloat? (reportableAge b.poseAge)),
          ("freshness_timeout", .float cfg.poseFreshnessTimeout)]) }

/-- Rule (5): the latched operator request. -/
def operatorRule (b : BotState α) : Option (Decision α) :=
  if b.operatorStopRequested then
    some { bot := b.bot, action := .estop, reason := .operatorStopRequest }
  else none

/-- Is the scan stream stale?  An unknown age is a fault only for a robot odometry has proved
alive. -/
def scanIsStale (b : BotState α) : Bool :=
  match b.scanAge with
  | none => b.odomSeen
  | some age =>
    if ageIsUnknown (some age) then b.odomSeen else decide (cfg.scanFreshnessTimeout < age)

/-- Rule (6): scan liveness. -/
def scanRule (b : BotState α) : Option (Decision α) :=
  if scanIsStale cfg b then
    some { bot := b.bot, action := .estop, reason := .scanStale,
           detail := some (.dict [("scan_age", .ofFloat? (reportableAge b.scanAge)),
             ("freshness_timeout", .float cfg.scanFreshnessTimeout)]) }
  else none

/-- Rule (7): the verdict of the terrain monitor, compared by its spelling. -/
def terrainRule (b : BotState α) : Option (Decision α) :=
  match b.terrainVerdict with
  | none => none
  | some verdict =>
    if verdict = "OK" then none
    else if verdict = "ABSENT" ∧ b.odomSeen = false then none
    else some
      { bot := b.bot, action := .estop, reason := .terrainHealth,
        detail := some (.dict [("source", .ofStr? b.terrainSource), ("verdict", .str verdict),
          ("health_epoch", .ofNat? b.terrainHealthEpoch)]) }

/-- `evaluate`: the decisions of one tick, in the order of the rules. -/
def evaluate (a b : BotState α) : List (Decision α) :=
  nearCollisionRule F L cfg a b
    ++ [a, b].filterMap batteryRule
    ++ [a, b].filterMap (blockedRule cfg)
    ++ [a, b].filterMap (poseRule cfg)
    ++ [a, b].filterMap operatorRule
    ++ [a, b].filterMap (scanRule cfg)
    ++ [a, b].filterMap terrainRule

end Evaluate

/-- `stop_requested_for`: does this robot have an emergency stop among the decisions? -/
def stopRequestedFor (decisions : List (Decision α)) (bot : String) : Bool :=
  (decisions.filter fun d => d.bot == bot).any fun d => d.action == .estop

/-- `build_event`: the payload of `/emergency/event`; the detail only when there is one. -/
def buildEvent (eventId robot : String) (reason : Reason) (timestamp : PyFloat α)
    (actionTaken : List String) (detail : Option (PyVal α)) : PyVal α :=
  .dict ([("event_id", .str eventId), ("robot", .str robot), ("type", .str reason.name),
    ("severity", .str "critical"), ("action_taken", .list (actionTaken.map .str)),
    ("timestamp", .float timestamp), ("requires_llm_review", .bool true)] ++
    (detail.map fun d => ("detail", d)).toList)

/-- `build_abort`: the payload of `/negotiation/abort`. -/
def buildAbort (reason : Reason) (robot eventId : String) : PyVal α :=
  .dict [("reason", .str reason.name), ("bot", .str robot), ("event_id", .str eventId)]

/-! ## The trackers between ticks -/

/-- `marshal_battery`: a reading that is not finite keeps the last good percentage.  Only the
`ValueError` of the normaliser is caught. -/
def marshalBattery [FloorRing α] (F : FloatFormat α) (prev : Option ℤ) (raw : PyFloat α)
    (scale : BatteryScale) : Except PyErr (Option ℤ) :=
  match normalizeBatteryPercent F raw scale with
  | .ok pct => .ok (some pct)
  | .error .valueError => .ok prev
  | .error e => .error e

/-- `PoseGateTracker`: odometry accumulated since the last pose, for each robot. -/
structure PoseGateTracker (α : Type*) where
  disp : Dict String (PyFloat α)
  dyaw : Dict String (PyFloat α)
  last : Dict String (PyFloat α × PyFloat α × PyFloat α)
  odomT : Dict String (PyFloat α)

namespace PoseGateTracker

/-- A tracker that has received nothing. -/
def empty : PoseGateTracker α := ⟨.empty, .empty, .empty, .empty⟩

/-- `_forget`: drop everything known about one robot. -/
def forget (t : PoseGateTracker α) (bot : String) : PoseGateTracker α :=
  ⟨t.disp.erase bot, t.dyaw.erase bot, t.last.erase bot, t.odomT.erase bot⟩

/-- `on_odom`: one odometry sample.  An unusable sample forgets the robot; the first usable one
becomes the origin; a later one adds the path length and the turn since the sample before. -/
def onOdom (F : FloatFormat α) (L : MathLib α) (t : PoseGateTracker α) (bot : String)
    (x y yaw now : PyFloat α) : PoseGateTracker α × Except PyErr Unit :=
  if x.isFinite && y.isFinite && yaw.isFinite && now.isFinite then
    match t.last.get? bot with
    | none =>
      ({ disp := t.disp.setDefault bot (.fin 0)
         dyaw := t.dyaw.setDefault bot (.fin 0)
         last := t.last.set bot (x, y, yaw)
         odomT := t.odomT.set bot now }, .ok ())
    | some (px, py, pyaw) =>
      let disp := t.disp.set bot (F.add (t.disp.getD bot (.fin 0)) (distance F L px py x y))
      match wrapAngle L (F.sub yaw pyaw) with
      | .error e => ({ t with disp := disp }, .error e)
      | .ok turn =>
        ({ disp := disp
           dyaw := t.dyaw.set bot (F.add (t.dyaw.getD bot (.fin 0)) turn.abs)
           last := t.last.set bot (x, y, yaw)
           odomT := t.odomT.set bot now }, .ok ())
  else (t.forget bot, .ok ())

/-- `on_pose`: a pose arrived, the accumulators restart. -/
def onPose (t : PoseGateTracker α) (bot : String) : PoseGateTracker α :=
  { t with disp := t.disp.set bot (.fin 0), dyaw := t.dyaw.set bot (.fin 0) }

/-- `snapshot`: the readings for a tick, unknown unless the last sample is fresh. -/
def snapshot (F : FloatFormat α) (t : PoseGateTracker α) (bot : String)
    (now staleAfter : PyFloat α) : Option (PyFloat α) × Option (PyFloat α) :=
  match t.odomT.get? bot with
  | none => (none, none)
  | some s =>
    if !staleAfter.isFinite then (none, none)
    else if .fin 0 ≤ F.sub now s ∧ F.sub now s ≤ staleAfter then (t.disp.get? bot, t.dyaw.get? bot)
    else (none, none)

end PoseGateTracker

/-- `BlockTracker`: how long each robot has stayed within `epsilon` of one place. -/
structure BlockTracker (α : Type*) where
  epsilon : PyFloat α
  lastXy : Dict String (PyFloat α × PyFloat α)
  lastMovedT : Dict String (PyFloat α)

/-- `BlockTracker.update`: the tracker after one pose, with the blocked duration. -/
def BlockTracker.update (F : FloatFormat α) (L : MathLib α) (t : BlockTracker α) (bot : String)
    (x y now : PyFloat α) : BlockTracker α × PyFloat α :=
  let moved :=
    ({ t with lastXy := t.lastXy.set bot (x, y), lastMovedT := t.lastMovedT.set bot now }, .fin 0)
  match t.lastXy.get? bot with
  | none => moved
  | some (px, py) =>
    if t.epsilon ≤ distance F L px py x y then moved
    else (t, F.sub now (t.lastMovedT.getD bot now))

/-- `EdgeLatch.rising`: the active set after this tick, and the keys that were not active
before it. -/
def EdgeLatch.rising (active : Finset (String × Reason)) (decisions : List (Decision α)) :
    Finset (String × Reason) × Finset (String × Reason) :=
  let now := (decisions.map Decision.key).toFinset
  (now, now \ active)

end Logic

/-! ## The operator stop -/

/-- The two explicit actions of an operator stop payload. -/
inductive OperatorAction
  | engage
  | clear
  deriving DecidableEq, Repr

section OperatorStop

variable {α : Type*} (scan : JsonScan α)

/-- `parse_operator_stop_action`: anything but an object with one of the two spellings is
ignored.  A text nested too deeply raises out of the parser. -/
def parseOperatorStopAction (raw : String) : Except PyErr (Option OperatorAction) :=
  match scan.loads raw with
  | .error .valueError => .ok none
  | .error .recursionError => .error .recursionError
  | .ok payload =>
    match payload.get? "action" with
    | some (.str "engage") => .ok (some .engage)
    | some (.str "clear") => .ok (some .clear)
    | _ => .ok none

/-- `OperatorStopLatch.feed`: the latch after one payload, with the accepted action. -/
def OperatorStopLatch.feed (engaged : Bool) (raw : String) :
    Bool × Except PyErr (Option OperatorAction) :=
  match parseOperatorStopAction scan raw with
  | .ok (some .engage) => (true, .ok (some .engage))
  | .ok (some .clear) => (false, .ok (some .clear))
  | r => (engaged, r)

end OperatorStop

end MiniatureWarehouse
