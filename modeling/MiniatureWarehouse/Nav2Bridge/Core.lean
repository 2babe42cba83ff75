import MiniatureWarehouse.Framework.Values

/-!
# The core of the navigation bridge

The bridge turns a location name into a navigation goal and tracks one task for each robot.  A
robot with a running goal is busy and a second goal for it is refused; a wait interrupts the
running goal, a stop forgets the task.  A monitor polls the backend five times a second and moves
a finished task to its result.

The navigator itself is outside: a request carries what the backend answers and what the clock
shows while it is handled.  The core changes only where a request is accepted, so a refused one
is an error without a state.
-/

namespace MiniatureWarehouse

/-- `"succeeded"` or `"failed"`, the two results of the backend. -/
inductive NavResult
  | succeeded
  | failed
  deriving DecidableEq, Repr

/-- The `nav_status` of a task. -/
inductive NavStatus
  | navigating
  | waiting
  | done (result : NavResult)
  deriving DecidableEq, Repr

/-- What the record of a task says beyond its id and status, by its `action`. -/
inductive NavAction (α : Type)
  | navigate (destination : Option String)
  | wait (duration expiry : PyFloat α)
  deriving DecidableEq

/-- The record of a task. -/
structure NavTask (α : Type) where
  taskId : String
  navStatus : NavStatus
  action : NavAction α
  deriving DecidableEq

/-- The named place a task is under way to. -/
def NavTask.target {α : Type} (task : NavTask α) : Option String :=
  match task.navStatus, task.action with
  | .navigating, .navigate destination => destination
  | _, _ => none

/-- A map coordinate. -/
abbrev Pose (α : Type) := PyFloat α × PyFloat α

/-- `Nav2BridgeError`. -/
structure Nav2BridgeError where
  errorCode : String
  detail : String
  httpStatus : ℕ
  deriving DecidableEq, Repr

/-- What the navigator and the clock show while the core handles a request or a poll. -/
structure Navigator (α : Type) where
  ready : String → Bool
  isComplete : String → Bool
  result : String → NavResult
  clock : PyFloat α

/-- `Nav2BridgeCore`: the allowed robots, the coordinates of the locations, the tasks and the two
counters of their ids. -/
structure Nav2BridgeCore (α : Type) where
  robots : List String
  locations : Dict String (Pose α)
  active : Dict String (NavTask α)
  navSeq : ℕ
  waitSeq : ℕ

namespace Nav2BridgeCore

variable {α : Type}

/-- The core as it is built. -/
def init (robots : List String) (locations : Dict String (Pose α)) : Nav2BridgeCore α :=
  ⟨robots, locations, .empty, 0, 0⟩

/-- `_require_robot`. -/
def requireRobot (c : Nav2BridgeCore α) (robot : String) : Except Nav2BridgeError Unit :=
  if c.robots.contains robot then .ok ()
  else .error ⟨"INVALID_ROBOT", "Unknown robot: " ++ robot, 400⟩

/-- `_coord`. -/
def coord (c : Nav2BridgeCore α) (name errorCode : String) : Except Nav2BridgeError (Pose α) :=
  match c.locations.get? name with
  | some pose => .ok pose
  | none => .error ⟨errorCode, "Unknown location: " ++ name, 400⟩

/-- `_coord_from_goal`: two or three finite coordinates, the yaw dropped. -/
def coordFromGoal (goal : List (PyFloat α)) : Except Nav2BridgeError (Pose α) :=
  let check (x y : PyFloat α) (yaw : List (PyFloat α)) : Except Nav2BridgeError (Pose α) :=
    if (x :: y :: yaw).all PyFloat.isFinite then .ok (x, y)
    else .error ⟨"INVALID_GOAL", "goal coordinates must be finite", 400⟩
  match goal with
  | [x, y] => check x y []
  | [x, y, yaw] => check x y [yaw]
  | _ => .error ⟨"INVALID_GOAL", "goal must be (x, y) or (x, y, yaw)", 400⟩

/-- The poses of an optional waypoint. -/
def viaPoses (c : Nav2BridgeCore α) : Option String → Except Nav2BridgeError (List (Pose α))
  | none => .ok []
  | some via => (c.coord via "INVALID_VIA").map fun pose => [pose]

/-- `_resolve_goal`: the poses for the backend, and the destination of the record.  Exactly one of
the two kinds of target has to be given; a waypoint comes first in either case. -/
def resolveGoal (c : Nav2BridgeCore α) (destination via : Option String)
    (goal : Option (List (PyFloat α))) :
    Except Nav2BridgeError (List (Pose α) × Option String) :=
  match destination, goal with
  | none, none | some _, some _ =>
    .error ⟨"INVALID_GOAL",
      "navigate requires exactly one of destination (named) or goal (coordinate)", 400⟩
  | none, some goal => do
    let waypoints ← c.viaPoses via
    let pose ← coordFromGoal goal
    return (waypoints ++ [pose], none)
  | some destination, none => do
    let waypoints ← c.viaPoses via
    let pose ← c.coord destination "INVALID_LOCATION"
    return (waypoints ++ [pose], some destination)

/-- `_require_ready`. -/
def requireReady (nav : Navigator α) (robot : String) : Except Nav2BridgeError Unit :=
  if nav.ready robot then .ok ()
  else .error ⟨"NAV2_NOT_READY", "Nav2 not ready for " ++ robot, 503⟩

/-- `_is_busy`. -/
def isBusy (c : Nav2BridgeCore α) (robot : String) : Bool :=
  match c.active.get? robot with
  | some task => task.navStatus = .navigating ∨ task.navStatus = .waiting
  | none => false

/-- A busy robot is refused with a 409. -/
def requireIdle (c : Nav2BridgeCore α) (robot : String) : Except Nav2BridgeError Unit :=
  if c.isBusy robot then
    .error ⟨"ALREADY_NAVIGATING", robot ++ " has an active goal; stop first", 409⟩
  else .ok ()

/-- `navigate`: the core after an accepted request, with the poses the backend is sent. -/
def navigate (c : Nav2BridgeCore α) (nav : Navigator α) (robot : String)
    (destination via : Option String) (goal : Option (List (PyFloat α))) :
    Except Nav2BridgeError (Nav2BridgeCore α × List (Pose α)) := do
  c.requireRobot robot
  let (poses, destination) ← c.resolveGoal destination via goal
  requireReady nav robot
  c.requireIdle robot
  let seq := c.navSeq + 1
  let task := ⟨"nav_" ++ format03d seq, .navigating, .navigate destination⟩
  return ({ c with navSeq := seq, active := c.active.set robot task }, poses)

/-- `stop`: the task is forgotten, and its id answered. -/
def stop (c : Nav2BridgeCore α) (robot : String) :
    Except Nav2BridgeError (Nav2BridgeCore α × Option String) := do
  c.requireRobot robot
  return ({ c with active := c.active.erase robot }, (c.active.get? robot).map NavTask.taskId)

section Clock

variable [Field α] [LinearOrder α] [IsStrictOrderedRing α] (F : FloatFormat α)

/-- `DURATION_MAX_SEC`. -/
def durationMaxSec : α := 30

/-- The two checks of the length of a wait. -/
def requireDuration (duration : PyFloat α) : Except Nav2BridgeError Unit :=
  if !duration.isFinite then .error ⟨"INVALID_DURATION", "duration must be a number", 400⟩
  else if duration ≤ .fin 0 ∨ .fin durationMaxSec < duration then
    .error ⟨"INVALID_DURATION", "duration must be in (0, 30.0] s", 400⟩
  else .ok ()

/-- `wait`: accepted also while the robot navigates, whose goal it cancels. -/
def wait (c : Nav2BridgeCore α) (nav : Navigator α) (robot : String) (duration : PyFloat α) :
    Except Nav2BridgeError (Nav2BridgeCore α) := do
  c.requireRobot robot
  requireDuration duration
  requireReady nav robot
  let seq := c.waitSeq + 1
  let task := ⟨"wait_" ++ format03d seq, .waiting, .wait duration (F.add nav.clock duration)⟩
  return { c with waitSeq := seq, active := c.active.set robot task }

/-- `_completed`: the result of a task that has just ended. -/
def completed (nav : Navigator α) (robot : String) (task : NavTask α) : Option NavResult :=
  match task.navStatus, task.action with
  | .navigating, _ => if nav.isComplete robot then some (nav.result robot) else none
  | .waiting, .wait _ expiry => if expiry ≤ nav.clock then some .succeeded else none
  | .waiting, .navigate _ => some .succeeded
  | .done _, _ => none

/-- One entry of the results a poll publishes. -/
structure PollResult where
  robot : String
  taskId : String
  result : NavResult
  deriving DecidableEq, Repr

/-- `poll_results`: the ended tasks move to their result, and are published. -/
def pollResults (c : Nav2BridgeCore α) (nav : Navigator α) :
    Nav2BridgeCore α × List PollResult :=
  ({ c with
      active := c.active.mapValues fun robot task =>
        match completed nav robot task with
        | some result => { task with navStatus := .done result }
        | none => task },
    c.active.entries.filterMap fun (robot, task) =>
      (completed nav robot task).map fun result => ⟨robot, task.taskId, result⟩)

end Clock

/-! ## Who is under way where -/

/-- The named place a robot is navigating to. -/
def navigatingTo (c : Nav2BridgeCore α) (robot : String) : Option String :=
  (c.active.get? robot).bind NavTask.target

/-- A robot that navigates is busy. -/
theorem navigatingTo_of_not_busy {c : Nav2BridgeCore α} {robot : String}
    (h : c.isBusy robot = false) : c.navigatingTo robot = none := by
  unfold navigatingTo
  unfold isBusy at h
  cases hget : c.active.get? robot with
  | none => rfl
  | some task =>
    have hstatus : task.navStatus ≠ .navigating := by
      intro hnav
      rw [hget] at h
      simp [hnav] at h
    cases hnav : task.navStatus <;> simp_all [NavTask.target]

theorem navigatingTo_set (c : Nav2BridgeCore α) (robot : String) (task : NavTask α) (n m : ℕ)
    (r : String) :
    ({ c with active := c.active.set robot task, navSeq := n, waitSeq := m } :
      Nav2BridgeCore α).navigatingTo r = if r = robot then task.target else c.navigatingTo r := by
  unfold navigatingTo
  rw [Dict.get?_set]
  by_cases hr : r = robot
  · rw [if_pos hr, if_pos hr]
    rfl
  · rw [if_neg hr, if_neg hr]

theorem requireRobot_eq_ok {c : Nav2BridgeCore α} {robot : String} {u : Unit} :
    c.requireRobot robot = .ok u ↔ robot ∈ c.robots := by
  simp [requireRobot]

/-- A named target is what the record will say. -/
theorem resolveGoal_destination {c : Nav2BridgeCore α} {destination : String}
    {via : Option String} {poses : List (Pose α)} {destination' : Option String}
    (h : c.resolveGoal (some destination) via none = .ok (poses, destination')) :
    destination' = some destination := by
  obtain ⟨waypoints, -, h⟩ := exceptBind_eq_ok.mp h
  obtain ⟨pose, -, h⟩ := exceptBind_eq_ok.mp h
  exact (congrArg Prod.snd (Except.ok.inj h)).symm

/-- **Specification of `navigate`.**  Only an idle robot is accepted, and then it is under way to
the place that was named. -/
theorem navigate_spec {c c' : Nav2BridgeCore α} {nav : Navigator α} {robot destination : String}
    {via : Option String} {poses : List (Pose α)}
    (h : c.navigate nav robot (some destination) via none = .ok (c', poses)) :
    c.navigatingTo robot = none ∧ c'.robots = c.robots ∧ robot ∈ c.robots ∧
      (∀ r, c'.navigatingTo r = if r = robot then some destination else c.navigatingTo r) := by
  obtain ⟨u, hrobot, h⟩ := exceptBind_eq_ok.mp h
  obtain ⟨⟨resolved, destination'⟩, hgoal, h⟩ := exceptBind_eq_ok.mp h
  obtain ⟨u, -, h⟩ := exceptBind_eq_ok.mp h
  obtain ⟨u, hidle, h⟩ := exceptBind_eq_ok.mp h
  have hdest : destination' = some destination := resolveGoal_destination hgoal
  have hbusy : c.isBusy robot = false := by
    by_contra hbusy
    simp [requireIdle, hbusy] at hidle
  have hc : { c with
      navSeq := c.navSeq + 1
      active := c.active.set robot
        ⟨"nav_" ++ format03d (c.navSeq + 1), .navigating, .navigate destination'⟩ } = c' :=
    congrArg Prod.fst (Except.ok.inj h)
  refine ⟨navigatingTo_of_not_busy hbusy, ?_, requireRobot_eq_ok.mp hrobot, ?_⟩
  · rw [← hc]
  · intro r
    rw [← hc, navigatingTo_set, hdest]
    rfl

/-- **Specification of `wait`.**  The robot is not under way afterwards. -/
theorem wait_spec [Field α] [LinearOrder α] [IsStrictOrderedRing α] {F : FloatFormat α}
    {c c' : Nav2BridgeCore α} {nav : Navigator α} {robot : String} {duration : PyFloat α}
    (h : c.wait F nav robot duration = .ok c') :
    c'.robots = c.robots ∧
      (∀ r, c'.navigatingTo r = if r = robot then none else c.navigatingTo r) := by
  obtain ⟨u, -, h⟩ := exceptBind_eq_ok.mp h
  obtain ⟨u, -, h⟩ := exceptBind_eq_ok.mp h
  obtain ⟨u, -, h⟩ := exceptBind_eq_ok.mp h
  have hc := Except.ok.inj h
  refine ⟨by rw [← hc], ?_⟩
  intro r
  rw [← hc, navigatingTo_set]
  rfl

/-- **Specification of `stop`.** -/
theorem stop_spec {c : Nav2BridgeCore α} {robot : String} (h : robot ∈ c.robots) :
    ∃ c' cancelled, c.stop robot = .ok (c', cancelled) ∧ c'.robots = c.robots ∧
      (∀ r, c'.navigatingTo r = if r = robot then none else c.navigatingTo r) := by
  have hrobot : c.requireRobot robot = .ok () := requireRobot_eq_ok.mpr h
  refine ⟨{ c with active := c.active.erase robot }, (c.active.get? robot).map NavTask.taskId,
    ?_, rfl, ?_⟩
  · rw [stop, hrobot]
    rfl
  · intro r
    unfold navigatingTo
    rw [Dict.get?_erase]
    by_cases hr : r = robot
    · rw [if_pos hr, if_pos hr]
      rfl
    · rw [if_neg hr, if_neg hr]

/-- **Specification of `poll_results`.**  A poll only ends movements. -/
theorem pollResults_spec [Field α] [LinearOrder α] [IsStrictOrderedRing α]
    (c : Nav2BridgeCore α) (nav : Navigator α) :
    (c.pollResults nav).1.robots = c.robots ∧
      ∀ r d, (c.pollResults nav).1.navigatingTo r = some d → c.navigatingTo r = some d := by
  refine ⟨rfl, ?_⟩
  intro r d h
  unfold navigatingTo pollResults at h
  rw [Dict.get?_mapValues] at h
  unfold navigatingTo
  cases hget : c.active.get? r with
  | none =>
    rw [hget] at h
    exact absurd h (by simp)
  | some task =>
    rw [hget] at h
    cases hdone : completed nav r task with
    | none => simpa [hdone] using h
    | some result => simp [hdone, NavTask.target] at h

end Nav2BridgeCore

end MiniatureWarehouse
