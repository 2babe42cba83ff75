import MiniatureWarehouse.Framework.Runs
import MiniatureWarehouse.Interfaces.Safety
import MiniatureWarehouse.LlmBridge.ConversationEvents
import MiniatureWarehouse.LlmBridge.OperatorFeedback
import MiniatureWarehouse.LlmBridge.Situation
import MiniatureWarehouse.Orchestrator.MotionWindow

/-!
# The state cache

One node turns the pose, odometry, battery and scan topics of the robots into the snapshot every
gate reads, and a timer writes it.  Each topic has its own rule for what is kept: a pose or a
velocity when all its numbers are finite, a battery reading when it can be normalised, a scan
always.  A robot is in the snapshot once it has the first three.  Emergency events are kept in two
rings.

The rules are independent, so a field is the last write of its topic (`view_run`), and what the
snapshot says of a robot is read off the samples received (`state_cache`).  Three callbacks can
raise: a reading of the fraction scale that overflows when it is scaled, an emergency payload that
is no object and no error the callback expects either, and a negative obstacle distance when the
snapshot is validated.
-/

namespace MiniatureWarehouse

namespace StateCache

open LlmBridge (Position Velocity RobotSnapshot StateSnapshot dictItem)
open OperatorFeedback (Hashed hashed?)
open Orchestrator (lastN pushBounded pushBounded_lastN)

/-! ## Samples -/

/-- `PoseSample`. -/
structure PoseSample (α : Type) where
  x : PyFloat α
  y : PyFloat α
  qx : PyFloat α
  qy : PyFloat α
  qz : PyFloat α
  qw : PyFloat α

/-- All numbers of a pose are finite. -/
def PoseSample.isFinite {α : Type} (s : PoseSample α) : Bool :=
  [s.x, s.y, s.qx, s.qy, s.qz, s.qw].all PyFloat.isFinite

/-- `VelocitySample`. -/
structure VelocitySample (α : Type) where
  linear : PyFloat α
  angular : PyFloat α

/-- Both numbers of a velocity are finite. -/
def VelocitySample.isFinite {α : Type} (s : VelocitySample α) : Bool :=
  s.linear.isFinite && s.angular.isFinite

/-- `ScanSample`. -/
structure ScanSample (α : Type) where
  ranges : List (PyFloat α)
  rangeMin : PyFloat α
  rangeMax : PyFloat α

/-- An emergency event: the items of a mapping, in order. -/
abbrev Event (α : Type) := List (PyVal α × PyVal α)

section Pure

variable {α : Type} [Field α] [LinearOrder α]

/-- `quaternion_to_yaw`. -/
def quaternionToYaw [IsStrictOrderedRing α] (F : FloatFormat α)
    (atan2 : PyFloat α → PyFloat α → PyFloat α) (qx qy qz qw : PyFloat α) : PyFloat α :=
  let sinyCosp := F.mul (.fin 2) (F.add (F.mul qw qz) (F.mul qx qy))
  let cosyCosp := F.sub (.fin 1) (F.mul (.fin 2) (F.add (F.mul qy qy) (F.mul qz qz)))
  atan2 sinyCosp cosyCosp

omit [Field α] in
/-- `min(values)`, of the values there are. -/
def minimum : List (PyFloat α) → Option (PyFloat α)
  | [] => none
  | r :: rs => some (rs.foldl PyFloat.pyMin r)

omit [Field α] in
/-- `min_valid_range`. -/
def minValidRange (s : ScanSample α) : Option (PyFloat α) :=
  minimum (s.ranges.filter fun r => r.isFinite ∧ s.rangeMin ≤ r ∧ r ≤ s.rangeMax)

/-- `derive_status`. -/
def deriveStatus [IsStrictOrderedRing α] (F : FloatFormat α) (linear : PyFloat α) : String :=
  if idleSpeedEps F < linear.abs then "moving" else "idle"

/-! ## Emergency payloads -/

/-- One more pair of a mapping; an equal key keeps its place and its first spelling. -/
def assignItem (items : Event α) (key value : PyVal α) : Event α :=
  if items.any fun item => hashed? item.1 = hashed? key then
    items.map fun item => if hashed? item.1 = hashed? key then (item.1, value) else item
  else items ++ [(key, value)]

/-- `dict(v)`: an object is copied, an iterable has to yield pairs. -/
def dictOf : PyVal α → Except PyErr (Event α)
  | .dict es => .ok (es.map fun e => (.str e.1, e.2))
  | .list xs => (xs.mapM dictItem).map fun items =>
      items.foldl (fun event item => assignItem event item.1 item.2) []
  | .str s => if s = "" then .ok [] else .error .valueError
  | _ => .error .typeError

/-- What `json.loads` raises: a text that is no JSON, an integer with too many digits, which is
another `ValueError`, or a value nested too deeply. -/
inductive LoadsRaise
  | jsonDecodeError
  | valueError
  | recursionError
  deriving DecidableEq

end Pure

/-! ## The aggregator -/

section Aggregator

variable {α : Type} [Field α] [LinearOrder α] [IsStrictOrderedRing α] [FloorRing α]

/-- What a state cache is started with, and what it uses of the language: the arc tangent and the
decoder of JSON texts. -/
structure Settings (α : Type) [Field α] [LinearOrder α] [IsStrictOrderedRing α] where
  format : FloatFormat α
  bots : List String
  batteryScale : BatteryScale
  atan2 : PyFloat α → PyFloat α → PyFloat α
  loads : String → Except LoadsRaise (PyVal α)

/-- `StateAggregator`; a scan without a valid reading leaves no distance. -/
structure StateAggregator (α : Type) where
  pose : Dict String (PoseSample α)
  velocity : Dict String (VelocitySample α)
  battery : Dict String ℤ
  obstacle : Dict String (Option (PyFloat α))
  emergencyActive : List (Event α)
  emergencyHistory : List (Event α)

omit [Field α] [LinearOrder α] [IsStrictOrderedRing α] [FloorRing α] in
/-- A new aggregator. -/
def StateAggregator.init : StateAggregator α := ⟨.empty, .empty, .empty, .empty, [], []⟩

/-- `_EMERGENCY_ACTIVE_MAX`. -/
def emergencyActiveMax : ℕ := 50

/-- `_EMERGENCY_HISTORY_MAX`. -/
def emergencyHistoryMax : ℕ := 50

/-- Appending to a list that is cut to its last elements when it has become too long. -/
def appendRing {β : Type} (max : ℕ) (xs : List β) (x : β) : List β :=
  let xs := xs ++ [x]
  if max < xs.length then xs.drop (xs.length - max) else xs

/-- What is written for a robot, before it is validated. -/
structure RobotFields (α : Type) where
  position : Position α
  velocity : Velocity α
  heading : PyFloat α
  status : String
  battery : ℤ
  obstacleDistance : Option (PyFloat α)

/-- What `build_snapshot` returns. -/
structure Snapshot (α : Type) [Field α] [LinearOrder α] where
  state : StateSnapshot α
  active : List (Event α)
  history : List (Event α)

/-- `RobotSnapshot.model_validate`. -/
def validateRobot (fields : RobotFields α) : Except PyErr (RobotSnapshot α) :=
  if hbattery : 0 ≤ fields.battery ∧ fields.battery ≤ 100 then
    if hobstacle : ∀ d ∈ fields.obstacleDistance, ¬ d < .fin 0 then
      .ok { position := fields.position, velocity := fields.velocity, heading := fields.heading,
            status := fields.status, battery := fields.battery,
            obstacleDistance := fields.obstacleDistance, battery_in_range := hbattery,
            obstacle_non_negative := hobstacle }
    else .error .valueError
  else .error .valueError

namespace StateAggregator

variable (settings : Settings α)

/-- `_robot_dict` of a robot that is complete. -/
def robotFields (s : StateAggregator α) (bot : String) : Option (RobotFields α) :=
  match s.pose.get? bot, s.velocity.get? bot, s.battery.get? bot with
  | some pose, some vel, some battery =>
    some { position := ⟨pose.x, pose.y⟩, velocity := ⟨vel.linear, vel.angular⟩,
           heading := quaternionToYaw settings.format settings.atan2 pose.qx pose.qy pose.qz
             pose.qw,
           status := deriveStatus settings.format vel.linear, battery := battery,
           obstacleDistance := (s.obstacle.get? bot).join }
  | _, _, _ => none

/-- One turn of the loop over the robots. -/
def addRobot (s : StateAggregator α) (robots : Dict String (RobotSnapshot α)) (bot : String) :
    Except PyErr (Dict String (RobotSnapshot α)) :=
  match s.robotFields settings bot with
  | none => .ok robots
  | some fields => (validateRobot fields).map fun robot => robots.set bot robot

/-- `build_snapshot`. -/
def buildSnapshot (s : StateAggregator α) (timestamp : String) : Except PyErr (Snapshot α) :=
  (settings.bots.foldlM (s.addRobot settings) Dict.empty).map fun robots =>
    ⟨⟨timestamp, robots⟩, s.emergencyActive, s.emergencyHistory⟩

omit [Field α] [LinearOrder α] [IsStrictOrderedRing α] [FloorRing α] in
/-- `add_emergency` of what `dict` made of the payload. -/
def addEmergency (s : StateAggregator α) (event : Event α) : StateAggregator α :=
  { s with
    emergencyActive := appendRing emergencyActiveMax s.emergencyActive event
    emergencyHistory := appendRing emergencyHistoryMax s.emergencyHistory event }

end StateAggregator

/-- A callback of the node. -/
inductive Call (α : Type)
  | setPose (bot : String) (sample : PoseSample α)
  | setVelocity (bot : String) (sample : VelocitySample α)
  | setBattery (bot : String) (percentage : PyFloat α)
  | setScan (bot : String) (sample : ScanSample α)
  | emergency (data : String)
  /-- The timer, with what the store and the publisher would raise. -/
  | writeCache (timestamp : String) (io : Option PyErr)

/-- One callback, and what it writes. -/
def handle (settings : Settings α) (s : StateAggregator α) :
    Call α → StateAggregator α × Except PyErr (Option (Snapshot α))
  | .setPose bot sample =>
    (if sample.isFinite then { s with pose := s.pose.set bot sample } else s, .ok none)
  | .setVelocity bot sample =>
    (if sample.isFinite then { s with velocity := s.velocity.set bot sample } else s, .ok none)
  | .setBattery bot percentage =>
    match normalizeBatteryPercent settings.format percentage settings.batteryScale with
    | .ok n => ({ s with battery := s.battery.set bot n }, .ok none)
    | .error .valueError => (s, .ok none)
    | .error e => (s, .error e)
  | .setScan bot sample =>
    ({ s with obstacle := s.obstacle.set bot (minValidRange sample) }, .ok none)
  | .emergency data =>
    match settings.loads data with
    | .error .jsonDecodeError => (s, .ok none)
    | .error .valueError => (s, .error .valueError)
    | .error .recursionError => (s, .error .recursionError)
    | .ok v =>
      match dictOf v with
      | .ok event => (s.addEmergency event, .ok none)
      | .error .typeError => (s, .ok none)
      | .error e => (s, .error e)
  | .writeCache timestamp io =>
    match s.buildSnapshot settings timestamp, io with
    | .error e, _ => (s, .error e)
    | .ok _, some e => (s, .error e)
    | .ok snapshot, none => (s, .ok (some snapshot))

/-- The node under its callbacks. -/
def stateCache (settings : Settings α) :
    Machine (StateAggregator α) (Call α) (Except PyErr (Option (Snapshot α))) := ⟨handle settings⟩

end Aggregator

/-! ## What was received -/

section Received

variable {α : Type} [Field α] [LinearOrder α] [IsStrictOrderedRing α] [FloorRing α]

omit [Field α] [LinearOrder α] [IsStrictOrderedRing α] [FloorRing α] in
/-- The pose a call has for a robot, when it is finite. -/
def poseOf : Call α → Option (String × PoseSample α)
  | .setPose bot sample => if sample.isFinite then some (bot, sample) else none
  | _ => none

omit [Field α] [LinearOrder α] [IsStrictOrderedRing α] [FloorRing α] in
/-- The velocity a call has for a robot, when it is finite. -/
def velocityOf : Call α → Option (String × VelocitySample α)
  | .setVelocity bot sample => if sample.isFinite then some (bot, sample) else none
  | _ => none

/-- The battery reading a call has for a robot, normalised, when that is possible. -/
def batteryOf (settings : Settings α) : Call α → Option (String × ℤ)
  | .setBattery bot percentage =>
    (normalizeBatteryPercent settings.format percentage settings.batteryScale).toOption.map
      fun n => (bot, n)
  | _ => none

/-- The nearest obstacle of the scan a call has for a robot. -/
def obstacleOf : Call α → Option (String × Option (PyFloat α))
  | .setScan bot sample => some (bot, minValidRange sample)
  | _ => none

/-- The event an emergency payload has, when it is a mapping. -/
def eventOf (settings : Settings α) : Call α → Option (Event α)
  | .emergency data => match settings.loads data with
    | .ok v => (dictOf v).toOption
    | .error _ => none
  | _ => none

/-- The value that is for a robot. -/
def forBot {γ : Type} (bot : String) (e : Option (String × γ)) : Option γ :=
  e.bind fun e => if e.1 = bot then some e.2 else none

/-- The last value the calls have for a robot. -/
def lastOf {β γ : Type} (value : β → Option (String × γ)) (bot : String) (calls : List β) :
    Option γ :=
  (calls.filterMap fun c => forBot bot (value c)).getLast?

/-- A snapshot says of the robots and of the emergencies what was received. -/
structure Faithful (settings : Settings α) (calls : List (Call α)) (snapshot : Snapshot α) :
    Prop where
  appears : ∀ bot, (∃ robot, snapshot.state.robots.get? bot = some robot) ↔
    bot ∈ settings.bots ∧ (∃ sample, .setPose bot sample ∈ calls ∧ sample.isFinite = true) ∧
      (∃ sample, .setVelocity bot sample ∈ calls ∧ sample.isFinite = true) ∧
      ∃ percentage n, .setBattery bot percentage ∈ calls ∧
        normalizeBatteryPercent settings.format percentage settings.batteryScale = .ok n
  latest : ∀ bot robot, snapshot.state.robots.get? bot = some robot →
    ∃ pose velocity, lastOf poseOf bot calls = some pose ∧
      robot.position = ⟨pose.x, pose.y⟩ ∧
      robot.heading = quaternionToYaw settings.format settings.atan2 pose.qx pose.qy pose.qz
        pose.qw ∧
      lastOf velocityOf bot calls = some velocity ∧
      robot.velocity = ⟨velocity.linear, velocity.angular⟩ ∧
      robot.status = deriveStatus settings.format velocity.linear ∧
      lastOf (batteryOf settings) bot calls = some robot.battery ∧
      0 ≤ robot.battery ∧ robot.battery ≤ 100 ∧
      robot.obstacleDistance = (lastOf obstacleOf bot calls).join
  active : snapshot.active = lastN emergencyActiveMax (calls.filterMap (eventOf settings))
  history : snapshot.history = lastN emergencyHistoryMax (calls.filterMap (eventOf settings))

/-- A call that does not raise. -/
def Safe (settings : Settings α) (s : StateAggregator α) : Call α → Prop
  | .setBattery _ percentage => settings.batteryScale = .fraction → percentage.isFinite = true →
      (settings.format.mul percentage (.fin 100)).isFinite = true
  | .emergency data => settings.loads data = .error .jsonDecodeError ∨
      ∃ v, settings.loads data = .ok v ∧ dictOf v ≠ .error .valueError
  | .writeCache _ io => io = none ∧ ∀ bot ∈ settings.bots, ∀ fields,
      s.robotFields settings bot = some fields → ∀ d ∈ fields.obstacleDistance, ¬ d < .fin 0
  | _ => True

end Received

/-! ## One call -/

/-- A field that every call either fills or leaves alone holds the last value it was filled with. -/
lemma view_run {σ ε ω γ : Type} {M : Machine σ ε ω} (view : σ → Option γ)
    (write : ε → Option γ)
    (hstep : ∀ s e, view (M.step s e).1 = (write e).or (view s)) (s : σ) (es : List ε) :
    view (M.run s es) = (es.filterMap write).getLast?.or (view s) := by
  have hfill : ∀ (o : Option γ) (old : Option γ), o.or old = (o.map some).getD old := by
    intro o old
    cases o <;> rfl
  have hwrites : es.filterMap (fun e => (write e).map some) = (es.filterMap write).map some :=
    List.map_filterMap.symm
  rw [Machine.view_of_writes view (fun e => (write e).map some)
    (fun s e => (hstep s e).trans (hfill _ _)) s es, hwrites, List.getLast?_map, hfill]

/-- There is a last value for a robot where there is one at all. -/
lemma exists_lastOf {β γ : Type} {value : β → Option (String × γ)} {bot : String}
    {calls : List β} :
    (∃ v, lastOf value bot calls = some v) ↔ ∃ c ∈ calls, ∃ v, value c = some (bot, v) := by
  have hnone : lastOf value bot calls = none ↔ ∀ c ∈ calls, forBot bot (value c) = none := by
    unfold lastOf
    rw [List.getLast?_eq_none_iff, List.filterMap_eq_nil_iff]
  have hsome : ∀ c, forBot bot (value c) ≠ none ↔ ∃ v, value c = some (bot, v) := by
    intro c
    unfold forBot
    rcases value c with - | ⟨b, v⟩
    · simp
    · by_cases hb : b = bot <;> simp [hb]
  rw [← Option.ne_none_iff_exists', ne_eq, hnone]
  push Not
  simp only [hsome]

/-- The ring of a list is its last elements. -/
lemma appendRing_lastN {β : Type} (max : ℕ) (xs : List β) (x : β) :
    appendRing max (lastN max xs) x = lastN max (xs ++ [x]) := by
  rw [← pushBounded_lastN]
  unfold appendRing pushBounded
  dsimp only
  split_ifs with hlong
  · rfl
  · unfold lastN
    have hzero : (List.drop (xs.length - max) xs ++ [x]).length - max = 0 := by
      unfold lastN at hlong
      omega
    rw [hzero, List.drop_zero]

section Call

variable {α : Type} [Field α] [LinearOrder α] [IsStrictOrderedRing α] [FloorRing α]
  {settings : Settings α}

/-- A battery call writes the normalised reading, when there is one. -/
lemma handle_setBattery (s : StateAggregator α) (bot : String) (percentage : PyFloat α) :
    (handle settings s (.setBattery bot percentage)).1 =
      (normalizeBatteryPercent settings.format percentage settings.batteryScale).toOption.elim s
        fun n => { s with battery := s.battery.set bot n } := by
  unfold handle
  dsimp only
  cases normalizeBatteryPercent settings.format percentage settings.batteryScale with
  | ok n => rfl
  | error e => cases e <;> rfl

/-- An emergency call appends the event, when there is one. -/
lemma handle_emergency (s : StateAggregator α) (data : String) :
    (handle settings s (.emergency data)).1 =
      (eventOf settings (.emergency data)).elim s s.addEmergency := by
  unfold handle eventOf
  dsimp only
  cases settings.loads data with
  | error e => cases e <;> rfl
  | ok v =>
    dsimp only
    cases dictOf v with
    | ok event => rfl
    | error e => cases e <;> rfl

/-- Writing changes nothing. -/
lemma handle_writeCache (s : StateAggregator α) (timestamp : String) (io : Option PyErr) :
    (handle settings s (.writeCache timestamp io)).1 = s := by
  unfold handle
  dsimp only
  split <;> rfl

/-- What a dictionary holds for a robot after a write. -/
lemma get?_written {γ : Type} (d : Dict String γ) (e : Option (String × γ)) (bot : String) :
    (e.elim d fun e => d.set e.1 e.2).get? bot = (forBot bot e).or (d.get? bot) := by
  unfold forBot
  rcases e with - | ⟨b, v⟩
  · rfl
  · rw [Option.elim_some, Dict.get?_set, Option.bind_some]
    by_cases hb : b = bot
    · rw [if_pos hb, if_pos hb.symm, Option.some_or]
    · rw [if_neg hb, if_neg (Ne.symm hb), Option.none_or]

/-- **One call.**  Every field takes the value the call has for it. -/
lemma handle_fst (s : StateAggregator α) (c : Call α) : (handle settings s c).1 =
    { pose := (poseOf c).elim s.pose fun e => s.pose.set e.1 e.2
      velocity := (velocityOf c).elim s.velocity fun e => s.velocity.set e.1 e.2
      battery := (batteryOf settings c).elim s.battery fun e => s.battery.set e.1 e.2
      obstacle := (obstacleOf c).elim s.obstacle fun e => s.obstacle.set e.1 e.2
      emergencyActive := (eventOf settings c).elim s.emergencyActive
        (appendRing emergencyActiveMax s.emergencyActive)
      emergencyHistory := (eventOf settings c).elim s.emergencyHistory
        (appendRing emergencyHistoryMax s.emergencyHistory) } := by
  cases c with
  | setPose bot sample =>
    unfold handle poseOf
    dsimp only
    cases sample.isFinite <;> rfl
  | setVelocity bot sample =>
    unfold handle velocityOf
    dsimp only
    cases sample.isFinite <;> rfl
  | setBattery bot percentage =>
    rw [handle_setBattery]
    unfold batteryOf
    dsimp only
    cases (normalizeBatteryPercent settings.format percentage settings.batteryScale).toOption <;> rfl
  | setScan bot sample => rfl
  | emergency data =>
    rw [handle_emergency]
    cases eventOf settings (.emergency data) <;> rfl
  | writeCache timestamp io =>
    rw [handle_writeCache]
    rfl

end Call

/-! ## A run -/

section Run

variable {α : Type} [Field α] [LinearOrder α] [IsStrictOrderedRing α] [FloorRing α]
  (settings : Settings α)

/-- The state after some calls. -/
def after (calls : List (Call α)) : StateAggregator α := (stateCache settings).run .init calls

variable {settings}

/-- A field that takes the values the calls have for it shows the last one. -/
lemma field_after {γ : Type} {field : StateAggregator α → Dict String γ}
    {value : Call α → Option (String × γ)} (hinit : field .init = .empty)
    (hstep : ∀ s c, field (handle settings s c).1 =
      (value c).elim (field s) fun e => (field s).set e.1 e.2)
    (calls : List (Call α)) (bot : String) :
    (field (after settings calls)).get? bot = lastOf value bot calls := by
  have hrun := view_run (M := stateCache settings) (fun s => (field s).get? bot)
    (fun c => forBot bot (value c)) (fun s c => ?_) .init calls
  · rw [hinit, Dict.get?_empty, Option.or_none] at hrun
    exact hrun
  · show (field (handle settings s c).1).get? bot = _
    rw [hstep]
    exact get?_written _ _ _

variable (settings) in
/-- **Every field is the last value received for it.** -/
lemma after_fields (calls : List (Call α)) (bot : String) :
    (after settings calls).pose.get? bot = lastOf poseOf bot calls ∧
      (after settings calls).velocity.get? bot = lastOf velocityOf bot calls ∧
      (after settings calls).battery.get? bot = lastOf (batteryOf settings) bot calls ∧
      (after settings calls).obstacle.get? bot = lastOf obstacleOf bot calls := by
  refine ⟨?_, ?_, ?_, ?_⟩
  · exact field_after rfl (fun s c => by rw [handle_fst]) calls bot
  · exact field_after rfl (fun s c => by rw [handle_fst]) calls bot
  · exact field_after rfl (fun s c => by rw [handle_fst]) calls bot
  · exact field_after rfl (fun s c => by rw [handle_fst]) calls bot

variable (settings) in
/-- **The rings are the last events received.** -/
lemma after_rings (calls : List (Call α)) :
    (after settings calls).emergencyActive =
        lastN emergencyActiveMax (calls.filterMap (eventOf settings)) ∧
      (after settings calls).emergencyHistory =
        lastN emergencyHistoryMax (calls.filterMap (eventOf settings)) := by
  unfold after
  induction calls using List.reverseRecOn with
  | nil => exact ⟨rfl, rfl⟩
  | append_singleton calls c ih =>
    have hstep : ∀ s, ((stateCache settings).step s c).1 = (handle settings s c).1 := fun _ => rfl
    rw [Machine.run_concat, hstep, handle_fst, ih.1, ih.2, List.filterMap_append]
    cases hevent : eventOf settings c with
    | none => simp [hevent]
    | some event =>
      rw [List.filterMap_cons_some hevent, List.filterMap_nil]
      exact ⟨appendRing_lastN _ _ _, appendRing_lastN _ _ _⟩

end Run

/-! ## The snapshot -/

section Snapshot

variable {α : Type} [Field α] [LinearOrder α] [IsStrictOrderedRing α] [FloorRing α]
  {settings : Settings α}

omit [IsStrictOrderedRing α] [FloorRing α] in
/-- A robot that is written is written as it is. -/
lemma validateRobot_fields {fields : RobotFields α} {robot : RobotSnapshot α}
    (h : validateRobot fields = .ok robot) :
    robot.position = fields.position ∧ robot.velocity = fields.velocity ∧
      robot.heading = fields.heading ∧ robot.status = fields.status ∧
      robot.battery = fields.battery ∧ robot.obstacleDistance = fields.obstacleDistance := by
  unfold validateRobot at h
  split_ifs at h
  cases h
  exact ⟨rfl, rfl, rfl, rfl, rfl, rfl⟩

omit [IsStrictOrderedRing α] [FloorRing α] in
/-- A robot whose battery is a percentage is refused for a negative distance alone. -/
lemma exists_validateRobot {fields : RobotFields α}
    (hbattery : 0 ≤ fields.battery ∧ fields.battery ≤ 100) :
    (∃ robot, validateRobot fields = .ok robot) ↔ ∀ d ∈ fields.obstacleDistance, ¬ d < .fin 0 := by
  unfold validateRobot
  rw [dif_pos hbattery]
  constructor
  · rintro ⟨robot, h⟩
    split_ifs at h with hobstacle
    exact hobstacle
  · intro hobstacle
    exact ⟨_, dif_pos hobstacle⟩

omit [FloorRing α] in
/-- The robots of a snapshot are the complete ones, as validated. -/
lemma get?_addRobots {s : StateAggregator α} {bots : List String}
    {robots robots' : Dict String (RobotSnapshot α)}
    (h : bots.foldlM (s.addRobot settings) robots = .ok robots') (bot : String)
    (robot : RobotSnapshot α) :
    robots'.get? bot = some robot ↔
      (bot ∈ bots ∧ ∃ fields, s.robotFields settings bot = some fields ∧
        validateRobot fields = .ok robot) ∨
      (robots.get? bot = some robot ∧ (bot ∈ bots → s.robotFields settings bot = none)) := by
  induction bots generalizing robots with
  | nil =>
    cases h
    simp
  | cons b bots ih =>
    obtain ⟨robots₁, hstep, hrest⟩ := exceptBind_eq_ok.mp h
    rw [ih hrest]
    unfold StateAggregator.addRobot at hstep
    cases hfields : s.robotFields settings b with
    | none =>
      rw [hfields] at hstep
      cases hstep
      by_cases hbot : bot = b
      · subst hbot
        simp [hfields]
      · simp [hbot]
    | some fields =>
      rw [hfields] at hstep
      obtain ⟨r, hr, rfl⟩ := exceptMap_eq_ok.mp hstep
      by_cases hbot : bot = b
      · subst hbot
        have hsame : some r = some robot ↔ validateRobot fields = .ok robot := by
          rw [hr, Option.some.injEq, Except.ok.injEq]
        simp only [Dict.get?_set_self, hsame, hfields, List.mem_cons, true_or, true_and,
          Option.some.injEq, exists_eq_left', reduceCtorEq, imp_false, not_true_eq_false, and_false,
          or_false]
        tauto
      · rw [Dict.get?_set_of_ne _ _ hbot]
        simp [hbot]

omit [FloorRing α] in
/-- The snapshot can be built when every complete robot is valid. -/
lemma exists_buildSnapshot {s : StateAggregator α} (timestamp : String)
    (hbattery : ∀ bot n, s.battery.get? bot = some n → 0 ≤ n ∧ n ≤ 100) :
    (∃ snapshot, s.buildSnapshot settings timestamp = .ok snapshot) ↔
      ∀ bot ∈ settings.bots, ∀ fields, s.robotFields settings bot = some fields →
        ∀ d ∈ fields.obstacleDistance, ¬ d < .fin 0 := by
  have hbuild : (∃ snapshot, s.buildSnapshot settings timestamp = .ok snapshot) ↔
      ∃ robots, settings.bots.foldlM (s.addRobot settings) Dict.empty = .ok robots := by
    unfold StateAggregator.buildSnapshot
    cases settings.bots.foldlM (s.addRobot settings) Dict.empty with
    | ok robots => exact ⟨fun _ => ⟨robots, rfl⟩, fun _ => ⟨_, rfl⟩⟩
    | error e =>
      constructor
      · rintro ⟨snapshot, h⟩
        cases h
      · rintro ⟨robots, h⟩
        cases h
  rw [hbuild]
  refine exists_foldlM_eq_ok fun robots bot => ?_
  unfold StateAggregator.addRobot
  cases hfields : s.robotFields settings bot with
  | none => simp
  | some fields =>
    have hrange : 0 ≤ fields.battery ∧ fields.battery ≤ 100 := by
      unfold StateAggregator.robotFields at hfields
      split at hfields
      next pose vel battery _ _ hget =>
        cases hfields
        exact hbattery bot battery hget
      next => cases hfields
    simp only [exceptMap_eq_ok, Option.some.injEq, forall_eq']
    rw [← exists_validateRobot hrange]
    exact ⟨fun ⟨_, r, hr, _⟩ => ⟨r, hr⟩, fun ⟨r, hr⟩ => ⟨_, r, hr, rfl⟩⟩

/-- The battery field holds percentages. -/
lemma battery_after {calls : List (Call α)} (bot : String) {n : ℤ}
    (h : (after settings calls).battery.get? bot = some n) : 0 ≤ n ∧ n ≤ 100 := by
  rw [(after_fields settings calls bot).2.2.1] at h
  obtain ⟨c, -, hc⟩ := List.mem_filterMap.mp (List.mem_of_getLast? h)
  obtain ⟨⟨b, m⟩, hvalue, hm⟩ := Option.bind_eq_some_iff.mp hc
  have hmn : m = n := by
    dsimp only at hm
    split_ifs at hm
    exact Option.some.inj hm
  subst hmn
  unfold batteryOf at hvalue
  split at hvalue
  · obtain ⟨k, hk, heq⟩ := Option.map_eq_some_iff.mp hvalue
    cases heq
    cases hnormal : normalizeBatteryPercent settings.format _ settings.batteryScale with
    | ok j =>
      rw [hnormal] at hk
      cases hk
      exact normalizeBatteryPercent_mem hnormal
    | error e =>
      rw [hnormal] at hk
      cases hk
  · cases hvalue

/-- What a snapshot has for a robot is put together from the last samples. -/
lemma robotFields_after {calls : List (Call α)} {bot : String} {fields : RobotFields α} :
    (after settings calls).robotFields settings bot = some fields ↔
      ∃ pose vel battery, lastOf poseOf bot calls = some pose ∧
        lastOf velocityOf bot calls = some vel ∧
        lastOf (batteryOf settings) bot calls = some battery ∧
        fields = { position := ⟨pose.x, pose.y⟩, velocity := ⟨vel.linear, vel.angular⟩,
                   heading := quaternionToYaw settings.format settings.atan2 pose.qx pose.qy
                     pose.qz pose.qw,
                   status := deriveStatus settings.format vel.linear, battery := battery,
                   obstacleDistance := (lastOf obstacleOf bot calls).join } := by
  obtain ⟨hpose, hvelocity, hbattery, hobstacle⟩ := after_fields settings calls bot
  unfold StateAggregator.robotFields
  rw [hpose, hvelocity, hbattery, hobstacle]
  cases lastOf poseOf bot calls with
  | none => simp
  | some pose =>
    cases lastOf velocityOf bot calls with
    | none => simp
    | some vel =>
      cases lastOf (batteryOf settings) bot calls with
      | none => simp
      | some battery => simp [eq_comm]

/-- A robot is complete once each of the three topics had a value for it. -/
lemma exists_robotFields {calls : List (Call α)} {bot : String} :
    (∃ fields, (after settings calls).robotFields settings bot = some fields) ↔
      (∃ sample, .setPose bot sample ∈ calls ∧ sample.isFinite = true) ∧
      (∃ sample, .setVelocity bot sample ∈ calls ∧ sample.isFinite = true) ∧
      ∃ percentage n, .setBattery bot percentage ∈ calls ∧
        normalizeBatteryPercent settings.format percentage settings.batteryScale = .ok n := by
  have hpose : (∃ pose, lastOf poseOf bot calls = some pose) ↔
      ∃ sample, .setPose bot sample ∈ calls ∧ sample.isFinite = true := by
    rw [exists_lastOf]
    constructor
    · rintro ⟨c, hc, v, hv⟩
      unfold poseOf at hv
      split at hv
      · split_ifs at hv with hfinite
        cases hv
        exact ⟨_, hc, hfinite⟩
      · cases hv
    · rintro ⟨sample, hc, hfinite⟩
      exact ⟨_, hc, sample, if_pos hfinite⟩
  have hvelocity : (∃ vel, lastOf velocityOf bot calls = some vel) ↔
      ∃ sample, .setVelocity bot sample ∈ calls ∧ sample.isFinite = true := by
    rw [exists_lastOf]
    constructor
    · rintro ⟨c, hc, v, hv⟩
      unfold velocityOf at hv
      split at hv
      · split_ifs at hv with hfinite
        cases hv
        exact ⟨_, hc, hfinite⟩
      · cases hv
    · rintro ⟨sample, hc, hfinite⟩
      exact ⟨_, hc, sample, if_pos hfinite⟩
  have hbattery : (∃ battery, lastOf (batteryOf settings) bot calls = some battery) ↔
      ∃ percentage n, .setBattery bot percentage ∈ calls ∧
        normalizeBatteryPercent settings.format percentage settings.batteryScale = .ok n := by
    rw [exists_lastOf]
    constructor
    · rintro ⟨c, hc, v, hv⟩
      unfold batteryOf at hv
      split at hv
      next b percentage =>
        obtain ⟨n, hn, heq⟩ := Option.map_eq_some_iff.mp hv
        cases heq
        refine ⟨percentage, v, hc, ?_⟩
        cases hnormal : normalizeBatteryPercent settings.format percentage settings.batteryScale with
        | ok k =>
          rw [hnormal] at hn
          cases hn
          rfl
        | error e =>
          rw [hnormal] at hn
          cases hn
      next => cases hv
    · rintro ⟨percentage, n, hc, hnormal⟩
      refine ⟨_, hc, n, ?_⟩
      unfold batteryOf
      dsimp only
      rw [hnormal]
      rfl
  rw [← hpose, ← hvelocity, ← hbattery]
  constructor
  · rintro ⟨fields, h⟩
    obtain ⟨pose, vel, battery, hp, hv, hb, -⟩ := robotFields_after.mp h
    exact ⟨⟨pose, hp⟩, ⟨vel, hv⟩, ⟨battery, hb⟩⟩
  · rintro ⟨⟨pose, hp⟩, ⟨vel, hv⟩, ⟨battery, hb⟩⟩
    exact ⟨_, robotFields_after.mpr ⟨pose, vel, battery, hp, hv, hb, rfl⟩⟩

/-- **What a snapshot says was received.** -/
lemma faithful {calls : List (Call α)} {timestamp : String} {snapshot : Snapshot α}
    (h : (after settings calls).buildSnapshot settings timestamp = .ok snapshot) :
    Faithful settings calls snapshot := by
  obtain ⟨robots, hrobots, rfl⟩ := exceptMap_eq_ok.mp h
  have hget : ∀ bot robot, robots.get? bot = some robot ↔ bot ∈ settings.bots ∧ ∃ fields,
      (after settings calls).robotFields settings bot = some fields ∧
        validateRobot fields = .ok robot := by
    intro bot robot
    rw [get?_addRobots hrobots]
    simp
  have hvalid : ∀ bot ∈ settings.bots, ∀ fields,
      (after settings calls).robotFields settings bot = some fields →
        ∃ robot, validateRobot fields = .ok robot := by
    intro bot hbot fields hfields
    have hdistance := (exists_buildSnapshot _ fun _ _ => battery_after _).mp ⟨_, h⟩ bot hbot fields
      hfields
    refine (exists_validateRobot ?_).mpr hdistance
    obtain ⟨pose, vel, battery, -, -, hb, rfl⟩ := robotFields_after.mp hfields
    exact battery_after bot ((after_fields settings calls bot).2.2.1.trans hb)
  obtain ⟨hactive, hhistory⟩ := after_rings settings calls
  refine ⟨fun bot => ?_, fun bot robot hrobot => ?_, hactive, hhistory⟩
  · rw [← exists_robotFields]
    constructor
    · rintro ⟨robot, hrobot⟩
      obtain ⟨hbot, fields, hfields, -⟩ := (hget bot robot).mp hrobot
      exact ⟨hbot, fields, hfields⟩
    · rintro ⟨hbot, fields, hfields⟩
      obtain ⟨robot, hrobot⟩ := hvalid bot hbot fields hfields
      exact ⟨robot, (hget bot robot).mpr ⟨hbot, fields, hfields, hrobot⟩⟩
  · obtain ⟨-, fields, hfields, hok⟩ := (hget bot robot).mp hrobot
    obtain ⟨pose, vel, battery, hp, hv, hb, rfl⟩ := robotFields_after.mp hfields
    obtain ⟨hposition, hvelocity, hheading, hstatus, hbattery, hobstacle⟩ :=
      validateRobot_fields hok
    refine ⟨pose, vel, hp, hposition, hheading, hv, hvelocity, hstatus, ?_,
      robot.battery_in_range.1, robot.battery_in_range.2, hobstacle⟩
    rw [hbattery]
    exact hb

end Snapshot

/-! ## What raises -/

section Raises

variable {α : Type} [Field α] [LinearOrder α]

omit [Field α] [LinearOrder α] in
lemma dictItem_error {v : PyVal α} {e : PyErr} (h : dictItem v = .error e) :
    e = .typeError ∨ e = .valueError := by
  unfold dictItem at h
  split at h
  · split_ifs at h
    exact .inl (Except.error.inj h).symm
  · exact .inr (Except.error.inj h).symm
  · split at h
    · cases h
    · exact .inr (Except.error.inj h).symm
  · cases h
  · exact .inr (Except.error.inj h).symm
  · exact .inl (Except.error.inj h).symm

/-- `dict` fails with one of two exceptions. -/
lemma dictOf_error {v : PyVal α} {e : PyErr} (h : dictOf v = .error e) :
    e = .typeError ∨ e = .valueError := by
  have hitems : ∀ xs : List (PyVal α), xs.mapM dictItem = .error e →
      e = .typeError ∨ e = .valueError := by
    intro xs
    induction xs with
    | nil =>
      intro hxs
      cases hxs
    | cons x xs ih =>
      intro hxs
      rw [List.mapM_cons] at hxs
      cases hitem : dictItem x with
      | error e' =>
        rw [hitem] at hxs
        cases hxs
        exact dictItem_error hitem
      | ok item =>
        rw [hitem] at hxs
        cases hrest : xs.mapM dictItem with
        | error e' =>
          rw [hrest] at hxs
          cases hxs
          exact ih hrest
        | ok items =>
          rw [hrest] at hxs
          cases hxs
  unfold dictOf at h
  split at h
  · cases h
  · exact hitems _ (exceptMap_eq_error.mp h)
  · split_ifs at h
    exact .inr (Except.error.inj h).symm
  · exact .inl (Except.error.inj h).symm

variable [IsStrictOrderedRing α] [FloorRing α] {settings : Settings α}

omit [IsStrictOrderedRing α] in
/-- A finite number can be rounded, and an infinite one cannot. -/
lemma pyRound_cases (x : PyFloat α) :
    (x.isFinite = true ∧ ∃ n, pyRound x = .ok n) ∨ (x = .nan ∧ pyRound x = .error .valueError) ∨
      (x.isFinite = false ∧ x ≠ .nan ∧ pyRound x = .error .overflowError) := by
  cases x with
  | fin x =>
    refine .inl ⟨rfl, ?_⟩
    unfold pyRound
    dsimp only
    split_ifs
    all_goals exact ⟨_, rfl⟩
  | nan => exact .inr (.inl ⟨rfl, rfl⟩)
  | posInf => exact .inr (.inr ⟨rfl, by simp, rfl⟩)
  | negInf => exact .inr (.inr ⟨rfl, by simp, rfl⟩)

variable (settings) in
/-- A battery reading is normalised or dropped, unless it overflows when it is scaled. -/
lemma normalizeBatteryPercent_cases (percentage : PyFloat α) :
    ((settings.batteryScale = .fraction → percentage.isFinite = true →
          (settings.format.mul percentage (.fin 100)).isFinite = true) ∧
        ((∃ n, normalizeBatteryPercent settings.format percentage settings.batteryScale = .ok n) ∨
          normalizeBatteryPercent settings.format percentage settings.batteryScale =
            .error .valueError)) ∨
      (¬ (settings.batteryScale = .fraction → percentage.isFinite = true →
          (settings.format.mul percentage (.fin 100)).isFinite = true) ∧
        normalizeBatteryPercent settings.format percentage settings.batteryScale =
          .error .overflowError) := by
  unfold normalizeBatteryPercent
  cases percentage with
  | fin x =>
    rw [PyFloat.isFinite_fin, if_pos rfl]
    cases settings.batteryScale with
    | percent =>
      obtain ⟨n, hn⟩ : ∃ n, pyRound (.fin x) = .ok n := by
        rcases pyRound_cases (.fin x) with ⟨-, h⟩ | ⟨hnan, -⟩ | ⟨hinfinite, -⟩
        · exact h
        · cases hnan
        · cases hinfinite
      refine .inl ⟨fun h => (by cases h), .inl ⟨max 0 (min 100 n), ?_⟩⟩
      dsimp only
      rw [hn]
      rfl
    | fraction =>
      dsimp only
      rcases pyRound_cases (settings.format.mul (.fin x) (.fin 100)) with
        ⟨hfinite, n, hn⟩ | ⟨hnan, -⟩ | ⟨hinfinite, -, hoverflow⟩
      · exact .inl ⟨fun _ _ => hfinite, .inl ⟨_, by rw [hn]; rfl⟩⟩
      · exact absurd hnan (settings.format.round_ne_nan _)
      · exact .inr ⟨by simp [hinfinite], by rw [hoverflow]; rfl⟩
  | _ => exact .inl ⟨fun _ h => (by cases h), .inr rfl⟩

/-- **A call raises exactly when it is not safe.** -/
lemma handle_ok_iff (calls : List (Call α)) (c : Call α) :
    (∃ out, (handle settings (after settings calls) c).2 = .ok out) ↔
      Safe settings (after settings calls) c := by
  cases c with
  | setPose bot sample => exact iff_of_true ⟨none, rfl⟩ trivial
  | setVelocity bot sample => exact iff_of_true ⟨none, rfl⟩ trivial
  | setScan bot sample => exact iff_of_true ⟨none, rfl⟩ trivial
  | setBattery bot percentage =>
    unfold handle Safe
    dsimp only
    rcases normalizeBatteryPercent_cases settings percentage with
      ⟨hsafe, ⟨n, hn⟩ | herror⟩ | ⟨hraises, hoverflow⟩
    · rw [hn]
      exact iff_of_true ⟨none, rfl⟩ hsafe
    · rw [herror]
      exact iff_of_true ⟨none, rfl⟩ hsafe
    · rw [hoverflow]
      exact iff_of_false (by simp) hraises
  | emergency data =>
    unfold handle Safe
    dsimp only
    cases settings.loads data with
    | error e => cases e <;> simp
    | ok v =>
      simp only [reduceCtorEq, Except.ok.injEq, exists_eq_left', false_or, ne_eq]
      cases hdict : dictOf v with
      | ok event => simp
      | error e =>
        rcases dictOf_error hdict with rfl | rfl
        · simp
        · simp
  | writeCache timestamp io =>
    unfold Safe
    rw [← exists_buildSnapshot timestamp fun _ _ => battery_after _]
    unfold handle
    dsimp only
    cases (after settings calls).buildSnapshot settings timestamp with
    | error e => simp
    | ok snapshot => cases io <;> simp

end Raises

/-- **The state cache says what it received.**  After any calls, the next one raises exactly when it
is not safe, and a snapshot that is built says of every robot and of the emergencies what was
received; and calls that are all safe raise nothing. -/
theorem state_cache {α : Type} [Field α] [LinearOrder α] [IsStrictOrderedRing α] [FloorRing α]
    (settings : Settings α) :
    (∀ calls c, (∃ out, ((stateCache settings).step (after settings calls) c).2 = .ok out) ↔
      Safe settings (after settings calls) c) ∧
    (∀ calls, (stateCache settings).AllSteps (Safe settings) .init calls →
      ∀ out ∈ (stateCache settings).outputs .init calls, ∃ snapshot, out = .ok snapshot) ∧
    ∀ calls timestamp snapshot,
      (after settings calls).buildSnapshot settings timestamp = .ok snapshot →
      Faithful settings calls snapshot := by
  refine ⟨handle_ok_iff, fun calls hsafe => ?_, fun _ _ _ => faithful⟩
  induction calls using List.reverseRecOn with
  | nil => exact fun out hout => absurd hout List.not_mem_nil
  | append_singleton calls c ih =>
    rw [Machine.allSteps_append] at hsafe
    rw [Machine.outputs_append, List.forall_mem_append]
    refine ⟨ih hsafe.1, List.forall_mem_singleton.mpr ?_⟩
    exact (handle_ok_iff calls c).mpr hsafe.2.1

/-! ### A node of two robots -/

/-- A decoder of the texts of `T`. -/
def decoder {α : Type} (T : Json.FloatText α) (data : String) : Except LoadsRaise (PyVal α) :=
  match (Json.scan T).loads data with
  | .ok v => .ok v
  | .error .valueError => .error .jsonDecodeError
  | .error .recursionError => .error .recursionError

lemma largest_nonneg : (0 : ℚ) ≤ 2 ^ 1024 := by positivity

/-- The node for two robots whose driver reports fractions, over numbers up to `2 ^ 1024`. -/
def twoBots : Settings ℚ where
  format := .bounded (2 ^ 1024) largest_nonneg
  bots := ["bot1", "bot2"]
  batteryScale := .fraction
  atan2 := fun _ _ => .fin 0
  loads := decoder Json.FloatText.rational

/-- A robot at rest. -/
def atRest : List (Call ℚ) :=
  [.setPose "bot1" ⟨.fin 1, .fin 2, .fin 0, .fin 0, .fin 0, .fin 1⟩,
    .setVelocity "bot1" ⟨.fin 0, .fin 0⟩, .setBattery "bot1" (.fin (1 / 2))]

/-- A scan whose lower bound lets a negative range through. -/
def negativeScan : Call ℚ := .setScan "bot1" ⟨[.fin (-1)], .fin (-2), .fin 10⟩

/-- The text of a JSON string. -/
def quoted (s : String) : String := String.ofList (Json.dumps Json.FloatText.rational (.str s))

lemma loads_quoted (s : String) : twoBots.loads (quoted s) = .ok (.str s) := by
  have hdecoder : twoBots.loads = decoder Json.FloatText.rational := rfl
  rw [hdecoder]
  unfold decoder quoted
  rw [Json.loads_dumps _ rfl]

/-- A robot at rest is in the snapshot, and its calls raise nothing. -/
theorem state_cache_at_rest :
    (∀ out ∈ (stateCache twoBots).outputs .init atRest, ∃ snapshot, out = .ok snapshot) ∧
      ∀ snapshot, (after twoBots atRest).buildSnapshot twoBots "" = .ok snapshot →
        Faithful twoBots atRest snapshot := by
  obtain ⟨-, hsafe, hfaithful⟩ := state_cache twoBots
  refine ⟨hsafe atRest ⟨trivial, trivial, fun _ _ => ?_, trivial⟩, hfaithful atRest ""⟩
  decide +kernel

/-- A reading of `2 ^ 1020` overflows when it is scaled, the text of a JSON string is no mapping,
and a robot with a negative distance has no snapshot. -/
theorem callbacks_raise :
    ((stateCache twoBots).step .init (.setBattery "bot1" (.fin (2 ^ 1020)))).2 =
        .error .overflowError ∧
      ((stateCache twoBots).step .init (.emergency (quoted "near"))).2 = .error .valueError ∧
      ¬ ∃ out, ((stateCache twoBots).step (after twoBots (atRest ++ [negativeScan]))
        (.writeCache "" none)).2 = .ok out := by
  have hcalls : ∀ s c, (stateCache twoBots).step s c = handle twoBots s c := fun _ _ => rfl
  refine ⟨?_, ?_, ?_⟩
  · have hoverflow : normalizeBatteryPercent twoBots.format (.fin (2 ^ 1020)) twoBots.batteryScale =
        .error .overflowError := by decide +kernel
    rw [hcalls]
    unfold handle
    dsimp only
    rw [hoverflow]
  · rw [hcalls]
    unfold handle
    dsimp only
    rw [loads_quoted]
    rfl
  · rw [hcalls, handle_ok_iff]
    rintro ⟨-, hdistance⟩
    have hobstacle :
        (lastOf obstacleOf "bot1" (atRest ++ [negativeScan])).join = some (.fin (-1)) := by
      decide +kernel
    have hbattery : lastOf (batteryOf twoBots) "bot1" (atRest ++ [negativeScan]) = some 50 := by
      decide +kernel
    refine hdistance "bot1" List.mem_cons_self _
      (robotFields_after.mpr ⟨_, _, _, rfl, rfl, hbattery, rfl⟩) (.fin (-1)) hobstacle ?_
    exact PyFloat.fin_lt_fin.mpr (by norm_num)

end StateCache

end MiniatureWarehouse
