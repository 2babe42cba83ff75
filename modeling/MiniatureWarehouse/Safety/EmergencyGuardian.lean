import MiniatureWarehouse.Safety.GuardDecisions
import MiniatureWarehouse.Safety.SensorHealth
import Mathlib.Logic.Function.Basic

/-!
# The emergency guardian

The node around the decision logic: the stores its subscriptions fill, the tick that judges
them, and the effects of a tick in the order they are published.  It is a machine whose inputs
are the callbacks and whose output is the list of effects, next to the exception that escaped
from the callback if one did.

Time enters only through the readings in the callbacks.  What a tick reads of its environment
besides (whether a cancel service is up, the wall clock of the events) is part of its input.
-/

namespace MiniatureWarehouse

namespace EmergencyGuardian

/-- The robots of `_BOTS`. -/
inductive Bot
  | bot1
  | bot2
  deriving DecidableEq, Repr

/-- The name of a robot in topics and snapshots. -/
def Bot.name : Bot → String
  | bot1 => "bot1"
  | bot2 => "bot2"

/-- `_BOTS`, in its order. -/
def bots : List Bot := [.bot1, .bot2]

/-- `TERRAIN_SOURCE`: the monitor slot the coverage stream stands for. -/
def terrainSource : String := "cliff_scan"

/-- `DEFAULT_STOP_STATE_VALID_WINDOW_S`. -/
def defaultStopStateValidWindowS {α : Type*} [Field α] : PyFloat α := .fin (1 / 2)

/-! ## The terrain monitors -/

section Terrain

variable {α : Type*} [Field α] [LinearOrder α]

/-- The monitor of one robot's coverage stream.  It declares the one source it is asked about,
so neither recording an observation nor reading the verdict can miss. -/
structure TerrainMonitor (α : Type*) [Field α] [LinearOrder α] where
  health : SensorHealthMonitor α
  declared : health.thresholds.contains terrainSource = true

namespace TerrainMonitor

/-- `SensorHealthMonitor({TERRAIN_SOURCE: limits})`. -/
def init (limits : SourceThresholds α) : TerrainMonitor α where
  health := .init (Dict.empty.set terrainSource limits)
  declared := by simp [SensorHealthMonitor.init, Dict.contains]

/-- The monitor after one coverage observation. -/
def observe (m : TerrainMonitor α) (obs : SourceObservation α) : TerrainMonitor α where
  health := (SensorHealthMonitor.machine.step m.health (terrainSource, obs)).1
  declared := by simpa using m.declared

/-- The judgement of a tick. -/
def evaluate [IsStrictOrderedRing α] (F : FloatFormat α) (m : TerrainMonitor α)
    (now : PyFloat α) : TerrainMonitor α × HealthReport :=
  let judged := m.health.evaluate F now
  ({ health := judged.1, declared := m.declared }, judged.2)

/-- Every judgement has a verdict for the source. -/
lemma exists_verdict [IsStrictOrderedRing α] (F : FloatFormat α) (m : TerrainMonitor α)
    (now : PyFloat α) : ∃ v, (m.evaluate F now).2.verdicts.get? terrainSource = some v := by
  obtain ⟨limits, hlimits⟩ := (Dict.contains_iff _ _).mp m.declared
  refine ⟨m.health.verdict F terrainSource limits now, ?_⟩
  simp only [evaluate, SensorHealthMonitor.evaluate]
  rw [Dict.get?_mapValues, hlimits]
  rfl

end TerrainMonitor

end Terrain

/-! ## The node -/

/-- The parameters of the node. -/
structure GuardianConfig (α : Type*) [Field α] [LinearOrder α] extends GuardConfig α where
  odomFreshnessTimeout : PyFloat α
  batteryScale : BatteryScale
  /-- The terrain limits, when the terrain observation is switched on. -/
  terrainLimits : Option (SourceThresholds α)

/-- The mutable attributes of the node. -/
structure Guardian (α : Type*) [Field α] [LinearOrder α] where
  seq : ℕ
  tracker : BlockTracker α
  gate : PoseGateTracker α
  latch : Finset (String × Reason)
  pose : Bot → Option (PyFloat α × PyFloat α)
  battery : Bot → Option ℤ
  blocked : Bot → PyFloat α
  lastPoseT : Bot → Option (PyFloat α)
  lastScanT : Bot → Option (PyFloat α)
  odomSeen : Bot → Bool
  opEngaged : Bool
  terrain : Bot → Option (TerrainMonitor α)

/-- What a tick reads besides the stores: whether the cancel service of a robot is up when a
decision is carried out, and the wall clock of the event with a sequence number, as a number and
as the formatted stamp of its identifier. -/
structure TickEnv (α : Type*) where
  serviceIsReady : String → Reason → Bool
  wall : ℕ → PyFloat α × String

/-- The callbacks of the node, with the clock readings they take. -/
inductive Event (α : Type*)
  | onPose (bot : Bot) (x y now : PyFloat α)
  | onOdom (bot : Bot) (x y qx qy qz qw now : PyFloat α)
  | onScan (bot : Bot) (now : PyFloat α)
  | onTerrainCoverage (bot : Bot) (data : String) (now : PyFloat α)
  | onBattery (bot : Bot) (percentage : PyFloat α)
  | onOperatorStop (data : String)
  | checkSafety (now : PyFloat α) (env : TickEnv α)

/-- What the node sends: a cancellation of all goals of a robot, the zero velocity on its
emergency topic, an event, the abort of a negotiation, the stop state of a robot. -/
inductive Effect (α : Type*)
  | cancelAllGoals (bot : String)
  | cmdVelEmergency (bot : String)
  | emergencyEvent (payload : PyVal α)
  | negotiationAbort (payload : PyVal α)
  | stopState (bot : String) (payload : PyVal α)

section Node

variable {α : Type*} [Field α] [LinearOrder α] [IsStrictOrderedRing α]
  (F : FloatFormat α) (L : MathLib α) (cfg : GuardianConfig α)

/-- The node after its constructor. -/
def Guardian.init : Guardian α where
  seq := 0
  tracker := ⟨F.round (1 / 50), .empty, .empty⟩
  gate := .empty
  latch := ∅
  pose _ := none
  battery _ := none
  blocked _ := .fin 0
  lastPoseT _ := none
  lastScanT _ := none
  odomSeen _ := false
  opEngaged := false
  terrain _ := cfg.terrainLimits.map TerrainMonitor.init

/-! ### The tick -/

/-- `_bot_state`: the snapshot of one robot, with the terrain stream judged on the way. -/
def botState (g : Guardian α) (bot : Bot) (now : PyFloat α) : Guardian α × BotState α :=
  let judged := (g.terrain bot).map fun m => m.evaluate F now
  let report := judged.map Prod.snd
  let (disp, dyaw) := g.gate.snapshot F bot.name now cfg.odomFreshnessTimeout
  ({ g with terrain := Function.update g.terrain bot (judged.map Prod.fst) },
    { bot := bot.name
      x := (g.pose bot).map Prod.fst
      y := (g.pose bot).map Prod.snd
      batteryPct := (g.battery bot).map fun n : ℤ => .fin (n : α)
      blockedDuration := g.blocked bot
      poseAge := (g.lastPoseT bot).map fun t => F.sub now t
      odomDispSincePose := disp
      odomDyawSincePose := dyaw
      operatorStopRequested := g.opEngaged
      scanAge := (g.lastScanT bot).map fun t => F.sub now t
      odomSeen := g.odomSeen bot
      terrainSource := report.map fun _ => terrainSource
      terrainVerdict := report.bind fun r => (r.verdicts.get? terrainSource).map SourceVerdict.name
      terrainHealthEpoch := report.map HealthReport.healthEpoch })

/-- The decimal digits of a sequence number, padded to four. -/
def pad4 (n : ℕ) : String :=
  let digits := toString n
  "".pushn '0' (4 - digits.length) ++ digits

/-- `_publish_event`: an event under the next sequence number, and for a stop the abort of any
negotiation. -/
def publishEvent (env : TickEnv α) (seq : ℕ) (dec : Decision α) (actionTaken : List String)
    (isEstop : Bool) : ℕ × List (Effect α) :=
  let seq := seq + 1
  let (now, stamp) := env.wall seq
  let eventId := "emg-" ++ stamp ++ "-" ++ pad4 seq
  let event := Effect.emergencyEvent
    (buildEvent eventId dec.bot dec.reason now actionTaken dec.detail)
  (seq, if isEstop then
      [event, .negotiationAbort (buildAbort dec.reason dec.bot eventId)]
    else [event])

/-- `_emergency_stop`: the physical stop on every tick, the event only on a rising edge. -/
def emergencyStop (env : TickEnv α) (seq : ℕ) (dec : Decision α) (emitEvent : Bool) :
    ℕ × List (Effect α) :=
  let cancel :=
    if env.serviceIsReady dec.bot dec.reason then [Effect.cancelAllGoals dec.bot] else []
  let (seq, event) :=
    if emitEvent then publishEvent env seq dec ["nav2_goal_cancel", "cmd_vel_stop"] true
    else (seq, [])
  (seq, cancel ++ .cmdVelEmergency dec.bot :: event)

/-- `_trigger_recovery`: an event on a rising edge. -/
def triggerRecovery (env : TickEnv α) (seq : ℕ) (dec : Decision α) (emitEvent : Bool) :
    ℕ × List (Effect α) :=
  if emitEvent then publishEvent env seq dec ["nav2_recovery"] false else (seq, [])

/-- The loop of a tick over its decisions. -/
def carryOut (env : TickEnv α) (rising : Finset (String × Reason)) :
    ℕ → List (Decision α) → ℕ × List (Effect α)
  | seq, [] => (seq, [])
  | seq, dec :: decisions =>
    let emitEvent := decide (dec.key ∈ rising)
    let (seq, effects) := match dec.action with
      | .estop => emergencyStop env seq dec emitEvent
      | .recovery => triggerRecovery env seq dec emitEvent
    let (seq, later) := carryOut env rising seq decisions
    (seq, effects ++ later)

/-- The payload of `/{bot}/stop_state`. -/
def stopStatePayload (stopRequested : Bool) (validUntil : PyFloat α) : PyVal α :=
  .dict [("stop_requested", .bool stopRequested), ("valid_until", .float validUntil)]

/-- `_publish_stop_state`: the stop state of every robot, from the decisions of this tick. -/
def publishStopState (names : List String) (decisions : List (Decision α)) (now : PyFloat α) :
    List (Effect α) :=
  let validUntil := F.add now defaultStopStateValidWindowS
  names.map fun bot => .stopState bot (stopStatePayload (stopRequestedFor decisions bot) validUntil)

/-- The decisions of a tick, with the node after the two snapshots. -/
def tickDecisions (g : Guardian α) (now : PyFloat α) : Guardian α × List (Decision α) :=
  let (g, a) := botState F cfg g .bot1 now
  let (g, b) := botState F cfg g .bot2 now
  (g, evaluate F L cfg.toGuardConfig a b)

/-- `_check_safety`: judge, carry out, publish the stop states. -/
def checkSafety (g : Guardian α) (now : PyFloat α) (env : TickEnv α) :
    Guardian α × List (Effect α) :=
  let (g, decisions) := tickDecisions F L cfg g now
  let (active, rising) := EdgeLatch.rising g.latch decisions
  let (seq, effects) := carryOut env rising g.seq decisions
  ({ g with latch := active, seq := seq },
    effects ++ publishStopState F (bots.map Bot.name) decisions now)

/-! ### The callbacks -/

variable [FloorRing α] (scan : JsonScan α)
  (parseTerrainCoverage : String → Option (TerrainCoverage α))

/-- The guardian as a machine.  An exception that escapes from a callback leaves the assignments
made before it; the run is continued from there, so that what holds in every run also holds in
those the exception ends. -/
def node : Machine (Guardian α) (Event α) (List (Effect α) × Except PyErr Unit) where
  step g
    | .onPose bot x y now =>
      let (tracker, blocked) := g.tracker.update F L bot.name x y now
      ({ g with
          pose := Function.update g.pose bot (some (x, y))
          lastPoseT := Function.update g.lastPoseT bot (some now)
          tracker := tracker
          blocked := Function.update g.blocked bot blocked
          gate := g.gate.onPose bot.name }, [], .ok ())
    | .onOdom bot x y qx qy qz qw now =>
      let (gate, raised) :=
        g.gate.onOdom F L bot.name x y (yawFromQuaternion F L qx qy qz qw) now
      ({ g with odomSeen := Function.update g.odomSeen bot true, gate := gate }, [], raised)
    | .onScan bot now =>
      ({ g with lastScanT := Function.update g.lastScanT bot (some now) }, [], .ok ())
    | .onTerrainCoverage bot data now =>
      -- without a monitor there is no subscription, and the callback never runs
      let observed := (g.terrain bot).map fun m =>
        m.observe (coverageObservation parseTerrainCoverage data now)
      ({ g with terrain := Function.update g.terrain bot observed }, [], .ok ())
    | .onBattery bot percentage =>
      match marshalBattery F (g.battery bot) percentage cfg.batteryScale with
      | .ok pct => ({ g with battery := Function.update g.battery bot pct }, [], .ok ())
      | .error e => (g, [], .error e)
    | .onOperatorStop data =>
      let (engaged, result) := OperatorStopLatch.feed scan g.opEngaged data
      ({ g with opEngaged := engaged }, [], result.map fun _ => ())
    | .checkSafety now env =>
      let (g, effects) := checkSafety F L cfg g now env
      (g, effects, .ok ())

end Node

/-! ## What a tick publishes -/

section Published

variable {α : Type*}

lemma cmdVelEmergency_notMem_publishEvent (env : TickEnv α) (seq : ℕ) (dec : Decision α)
    (actionTaken : List String) (isEstop : Bool) (bot : String) :
    .cmdVelEmergency bot ∉ (publishEvent env seq dec actionTaken isEstop).2 := by
  cases isEstop <;> simp [publishEvent]

lemma stopState_notMem_publishEvent (env : TickEnv α) (seq : ℕ) (dec : Decision α)
    (actionTaken : List String) (isEstop : Bool) (bot : String) (payload : PyVal α) :
    .stopState bot payload ∉ (publishEvent env seq dec actionTaken isEstop).2 := by
  cases isEstop <;> simp [publishEvent]

/-- Carrying out a stop sends the zero velocity to its robot and to no other. -/
lemma cmdVelEmergency_mem_emergencyStop (env : TickEnv α) (seq : ℕ) (dec : Decision α)
    (emitEvent : Bool) (bot : String) :
    .cmdVelEmergency bot ∈ (emergencyStop env seq dec emitEvent).2 ↔ bot = dec.bot := by
  have hevent := cmdVelEmergency_notMem_publishEvent env seq dec
    ["nav2_goal_cancel", "cmd_vel_stop"] true bot
  cases emitEvent <;> cases hready : env.serviceIsReady dec.bot dec.reason <;>
    simp [emergencyStop, hready, hevent]

lemma stopState_notMem_emergencyStop (env : TickEnv α) (seq : ℕ) (dec : Decision α)
    (emitEvent : Bool) (bot : String) (payload : PyVal α) :
    .stopState bot payload ∉ (emergencyStop env seq dec emitEvent).2 := by
  have hevent := stopState_notMem_publishEvent env seq dec
    ["nav2_goal_cancel", "cmd_vel_stop"] true bot payload
  cases emitEvent <;> cases hready : env.serviceIsReady dec.bot dec.reason <;>
    simp [emergencyStop, hready, hevent]

lemma triggerRecovery_sends_no_stop (env : TickEnv α) (seq : ℕ) (dec : Decision α)
    (emitEvent : Bool) (bot : String) (payload : PyVal α) :
    .cmdVelEmergency bot ∉ (triggerRecovery env seq dec emitEvent).2 ∧
      .stopState bot payload ∉ (triggerRecovery env seq dec emitEvent).2 := by
  cases emitEvent with
  | false => simp [triggerRecovery]
  | true =>
    exact ⟨cmdVelEmergency_notMem_publishEvent _ _ _ _ _ _,
      stopState_notMem_publishEvent _ _ _ _ _ _ _⟩

/-- **The loop of a tick stops exactly the robots with a stop among the decisions**, on a rising
edge or not. -/
lemma cmdVelEmergency_mem_carryOut (env : TickEnv α) (rising : Finset (String × Reason)) (seq : ℕ)
    (decisions : List (Decision α)) (bot : String) :
    .cmdVelEmergency bot ∈ (carryOut env rising seq decisions).2 ↔
      ∃ d ∈ decisions, d.bot = bot ∧ d.action = .estop := by
  induction decisions generalizing seq with
  | nil => simp [carryOut]
  | cons dec decisions ih =>
    simp only [carryOut, List.mem_append, ih, List.mem_cons, exists_eq_or_imp]
    refine or_congr ?_ Iff.rfl
    cases haction : dec.action with
    | estop =>
      rw [cmdVelEmergency_mem_emergencyStop]
      simp [eq_comm]
    | recovery =>
      have hno := (triggerRecovery_sends_no_stop env seq dec (decide (dec.key ∈ rising)) bot
        (.null : PyVal α)).1
      simp [hno]

/-- The loop of a tick publishes no stop state of its own. -/
lemma stopState_notMem_carryOut (env : TickEnv α) (rising : Finset (String × Reason)) (seq : ℕ)
    (decisions : List (Decision α)) (bot : String) (payload : PyVal α) :
    .stopState bot payload ∉ (carryOut env rising seq decisions).2 := by
  induction decisions generalizing seq with
  | nil => simp [carryOut]
  | cons dec decisions ih =>
    simp only [carryOut, List.mem_append, ih, or_false]
    cases haction : dec.action with
    | estop => exact stopState_notMem_emergencyStop env seq dec _ bot payload
    | recovery => exact (triggerRecovery_sends_no_stop env seq dec _ bot payload).2

lemma stopStatePayload_inj {r r' : Bool} {v v' : PyFloat α} :
    stopStatePayload r v = stopStatePayload r' v' ↔ r = r' ∧ v = v' := by
  simp [stopStatePayload]

variable [Field α] [LinearOrder α] [IsStrictOrderedRing α]

/-- Each robot is sent one stop state: what its decisions of this tick ask for, valid for the
producer window. -/
lemma stopState_mem_publishStopState (F : FloatFormat α) (names : List String)
    (decisions : List (Decision α)) (now : PyFloat α) (bot : String) (payload : PyVal α) :
    .stopState bot payload ∈ publishStopState F names decisions now ↔
      bot ∈ names ∧ payload = stopStatePayload (stopRequestedFor decisions bot)
        (F.add now defaultStopStateValidWindowS) := by
  simp only [publishStopState, List.mem_map, Effect.stopState.injEq]
  constructor
  · rintro ⟨name, hname, rfl, rfl⟩
    exact ⟨hname, rfl⟩
  · rintro ⟨hname, rfl⟩
    exact ⟨bot, hname, rfl, rfl⟩

end Published

/-! ## Decisions, stop states and edges -/

section Consumers

variable {α : Type*} [Field α] [LinearOrder α] [IsStrictOrderedRing α]
  (F : FloatFormat α) (L : MathLib α) (cfg : GuardConfig α)

/-- `EdgeLatch` as a machine over the decisions of successive ticks. -/
def edgeMachine : Machine (Finset (String × Reason)) (List (Decision α))
    (Finset (String × Reason)) where
  step := EdgeLatch.rising

omit [Field α] [LinearOrder α] [IsStrictOrderedRing α] in
/-- The latch of the guardian is the edge latch of the alarms. -/
lemma outputs_edgeMachine (active : Finset (String × Reason))
    (ticks : List (List (Decision α))) :
    edgeMachine.outputs active ticks =
      Edges.edgeLatch.outputs active (ticks.map fun ds => (ds.map Decision.key).toFinset) := by
  induction ticks generalizing active with
  | nil => rfl
  | cons ds ticks ih =>
    rw [List.map_cons, Machine.outputs_cons, Machine.outputs_cons, ih]
    rfl

/-- The decisions of a sequence of ticks. -/
def decisionsOf (ticks : List (BotState α × BotState α)) : List (List (Decision α)) :=
  ticks.map fun t => evaluate F L cfg t.1 t.2

/-- The alarms that are active at each tick of a sequence; none after its end. -/
def activeAt (ticks : List (BotState α × BotState α)) (n : ℕ) : Set (String × Reason) :=
  { key | ∃ t, ticks[n]? = some t ∧ ∃ d ∈ evaluate F L cfg t.1 t.2, d.key = key }

/-- The latch reports this alarm at tick `n` of the sequence. -/
def ReportedAt (ticks : List (BotState α × BotState α)) (key : String × Reason) (n : ℕ) : Prop :=
  key ∈ (edgeMachine.outputs ∅ (decisionsOf F L cfg ticks)).getD n ∅

/-- The latch reports the rising edges of the active alarms. -/
lemma reportedAt_iff (ticks : List (BotState α × BotState α)) (key : String × Reason) (n : ℕ) :
    ReportedAt F L cfg ticks key n ↔ Edges.Rises (activeAt F L cfg ticks) key n := by
  have hlevel : Edges.levelOf ((decisionsOf F L cfg ticks).map
      fun ds => (ds.map Decision.key).toFinset) = activeAt F L cfg ticks := by
    funext m
    ext key
    unfold Edges.levelOf activeAt decisionsOf
    rw [List.getD_eq_getElem?_getD, List.getElem?_map, List.getElem?_map]
    cases ticks[m]? <;> simp
  rw [ReportedAt, outputs_edgeMachine, Edges.mem_outputs_edgeLatch, hlevel]

/-- **Decisions and edges.**  In every tick of two robots with different names no alarm is
decided twice, a robot has a stop decision exactly when one of its six stop predicates holds,
and that is what its stop state says.  Over the whole sequence an alarm is reported exactly once
in each maximal run of ticks in which it is active, and only at the start of one. -/
theorem decisions_and_edges (ticks : List (BotState α × BotState α))
    (hnames : ∀ t ∈ ticks, t.1.bot ≠ t.2.bot) :
    (∀ t ∈ ticks,
      ((evaluate F L cfg t.1 t.2).map Decision.key).Nodup ∧
      ∀ s, s = t.1 ∨ s = t.2 →
        ((∃ d ∈ evaluate F L cfg t.1 t.2, d.bot = s.bot ∧ d.action = .estop) ↔
          MustStop F L cfg t.1 t.2 s) ∧
        ∀ now r v, .stopState s.bot (stopStatePayload r v) ∈
            publishStopState F [t.1.bot, t.2.bot] (evaluate F L cfg t.1 t.2) now ↔
          (r = true ↔ MustStop F L cfg t.1 t.2 s) ∧
            v = F.add now defaultStopStateValidWindowS) ∧
    (∀ key i j, Edges.MaximalRun (activeAt F L cfg ticks) key i j →
      ∃! n, (i ≤ n ∧ n < j) ∧ ReportedAt F L cfg ticks key n) ∧
    (∀ key n, ReportedAt F L cfg ticks key n →
      ∃ j, Edges.MaximalRun (activeAt F L cfg ticks) key n j) := by
  refine ⟨?_, ?_, ?_⟩
  · intro t ht
    have hne := hnames t ht
    refine ⟨nodup_keys_evaluate F L cfg hne, ?_⟩
    intro s hs
    have hestop := exists_estop_evaluate_iff F L cfg hne hs
    refine ⟨hestop, ?_⟩
    intro now r v
    have hname : s.bot ∈ [t.1.bot, t.2.bot] := by
      rcases hs with rfl | rfl <;> simp
    have hflag : stopRequestedFor (evaluate F L cfg t.1 t.2) s.bot = true ↔
        MustStop F L cfg t.1 t.2 s := by
      rw [stopRequestedFor_iff]
      exact hestop
    rw [stopState_mem_publishStopState, stopStatePayload_inj, ← hflag]
    simp only [hname, true_and]
    cases r <;> cases stopRequestedFor (evaluate F L cfg t.1 t.2) s.bot <;> simp
  · intro key i j hrun
    simp only [reportedAt_iff]
    exact hrun.existsUnique_rises
  · intro key n hreported
    rw [reportedAt_iff] at hreported
    -- after the last tick nothing is active, so every run ends
    refine hreported.exists_maximalRun ⟨n + ticks.length, by omega, ?_⟩
    rintro ⟨t, ht, -⟩
    rw [List.getElem?_eq_none (by omega)] at ht
    cases ht

end Consumers

/-! ### An alarm that comes back -/

/-- A robot with this battery reading and nothing else to report. -/
def batteryOnly (bot : String) (pct : ℚ) : BotState ℚ where
  bot := bot
  x := none
  y := none
  batteryPct := some (.fin pct)
  blockedDuration := .fin 0

/-- Thresholds of one for everything. -/
def unitThresholds : GuardConfig ℚ where
  distanceThreshold := .fin 1
  blockedTimeout := .fin 1
  poseFreshnessTimeout := .fin 1
  scanFreshnessTimeout := .fin 1

/-- Three ticks in which the battery of one robot is critical, recovers, and is critical again. -/
def batteryTicks : List (BotState ℚ × BotState ℚ) :=
  [(batteryOnly "bot1" 5, batteryOnly "bot2" 80), (batteryOnly "bot1" 50, batteryOnly "bot2" 80),
    (batteryOnly "bot1" 5, batteryOnly "bot2" 80)]

/-- The second run of the alarm is reported once. -/
theorem decisions_and_edges_battery :
    ∃! n, (2 ≤ n ∧ n < 3) ∧
      ReportedAt (.exact ℚ) .rational unitThresholds batteryTicks ("bot1", .batteryCritical) n := by
  refine (decisions_and_edges (.exact ℚ) .rational unitThresholds batteryTicks
    (by decide +kernel)).2.1 _ 2 3 ⟨by decide, ?_, ?_, ?_⟩
  · intro n hle hlt
    obtain rfl : n = 2 := by omega
    exact ⟨_, rfl, by decide +kernel⟩
  · intro m hm
    obtain rfl : m = 1 := by omega
    rintro ⟨t, ht, d, hd, -⟩
    have hnone : evaluate (.exact ℚ) .rational unitThresholds (batteryOnly "bot1" 50)
        (batteryOnly "bot2" 80) = [] := List.map_eq_nil_iff.mp
          (show List.map Decision.key _ = [] by decide +kernel)
    obtain rfl : (batteryOnly "bot1" 50, batteryOnly "bot2" 80) = t := Option.some.inj ht
    rw [hnone] at hd
    cases hd
  · rintro ⟨t, ht, -⟩
    cases ht

end EmergencyGuardian

end MiniatureWarehouse
