import MiniatureWarehouse.Planning.CommandCompiler

/-!
# The situation of the commander

At the start of a cycle the bridge reads the state snapshot and enriches every robot with what the
snapshot does not carry: where the robot will be in three seconds, and whether an obstacle is
close.  In the mode in which another system manages the traffic these fields are left out.

The snapshot is validated, and a corrupt one raises.  So does a heading that has no sine: the
extrapolation is computed on whatever number the snapshot holds.
-/

namespace MiniatureWarehouse

namespace LlmBridge

/-! ## The contract -/

/-- `Position`. -/
structure Position (α : Type) where
  x : PyFloat α
  y : PyFloat α

/-- `Velocity`. -/
structure Velocity (α : Type) where
  linear : PyFloat α
  angular : PyFloat α

/-- `RobotSnapshot`, with the checks of its validators as fields. -/
structure RobotSnapshot (α : Type) [Field α] [LinearOrder α] where
  position : Position α
  velocity : Velocity α
  heading : PyFloat α
  status : String
  battery : ℤ
  obstacleDistance : Option (PyFloat α)
  battery_in_range : 0 ≤ battery ∧ battery ≤ 100
  obstacle_non_negative : ∀ d, obstacleDistance = some d → ¬ d < .fin 0

/-- `StateSnapshot`. -/
structure StateSnapshot (α : Type) [Field α] [LinearOrder α] where
  timestamp : String
  robots : Dict String (RobotSnapshot α)

/-- The fields of a `RobotState` that stay unset when the traffic is managed elsewhere. -/
structure TrafficState (α : Type) where
  velocity : Velocity α
  heading : PyFloat α
  obstacleDistance : Option (PyFloat α)
  predictedPosition3s : Position α
  obstacleAhead : Bool

/-- `RobotState`. -/
structure RobotState (α : Type) where
  position : Position α
  status : String
  battery : ℤ
  currentTask : Option String
  traffic : Option (TrafficState α)

/-- `PendingTask`. -/
structure PendingTask where
  id : String
  from_ : String
  to_ : String
  deriving DecidableEq

/-- `HistoryEntry`. -/
structure HistoryEntry where
  turn : ℕ
  action : String
  result : String
  deriving DecidableEq

/-- `AgreedAction`. -/
structure AgreedAction (α : Type) where
  action : CommandAction
  by_ : String
  to_ : Option String
  duration : Option (PyFloat α)

/-- `Proposal`, its transcript as pairs of a speaker and a text. -/
structure Proposal (α : Type) where
  negotiationId : String
  genId : ℤ
  agreedAction : AgreedAction α
  transcript : List (String × String)
  reachedAt : PyFloat α

/-- The serialized `Situation`, with the two keys that are attached to it. -/
structure Situation (α : Type) where
  timestamp : String
  turn : ℕ
  genId : ℤ
  layout : String
  robots : Dict String (RobotState α)
  pendingTasks : List PendingTask
  history : List HistoryEntry
  emergency : Option (PyVal α)
  negotiationProposal : Option (Proposal α)

/-! ## The state file -/

/-- What reading a file yields. -/
inductive FileRead
  | missing
  | text (s : String)
  | unreadable (e : PyErr)

/-- `FileStateStore.read`: `None` where there is no file. -/
def FileRead.read {α : Type} (scan : JsonScan α) : FileRead → Except PyErr (PyVal α)
  | .missing => .ok .null
  | .text s =>
    match scan.loads s with
    | .ok v => .ok v
    | .error e => .error e.toPyErr
  | .unreadable e => .error e

/-- `EMERGENCY_HISTORY_LLM_MAX`. -/
def emergencyHistoryLlmMax : ℕ := 10

/-- The emergency block for the model: its history is cut to the most recent events. -/
def capHistory {α : Type} : PyVal α → PyVal α
  | .dict es =>
    match Dict.find es "history" with
    | some (.list history) =>
      if emergencyHistoryLlmMax < history.length then
        .dict (Dict.assign es "history"
          (.list (history.drop (history.length - emergencyHistoryLlmMax))))
      else .dict es
    | _ => .dict es
  | v => v

/-- `_attach_emergency`; `copies` says whether `deepcopy` stays within the recursion limit. -/
def attachEmergency {α : Type} (copies : PyVal α → Bool) (raw : PyVal α) :
    Except PyErr (Option (PyVal α)) :=
  match raw.get? "emergency" with
  | none => .ok none
  | some emergency =>
    if !copies emergency then .error .recursionError
    else
      match emergency with
      | .null => .ok none
      | emergency => .ok (some (capHistory emergency))

/-! ## The builder -/

/-- `OPEN_RMF_MODE`. -/
def openRmfMode : String := "open-rmf"

/-- `SituationBuilder`, with the collaborators it is wired to: the decoder, the validation of a
snapshot, and whether a value can be copied. -/
structure SituationBuilder (α : Type) [Field α] [LinearOrder α] where
  scan : JsonScan α
  validate : PyVal α → Option (StateSnapshot α)
  copies : PyVal α → Bool
  mode : String
  layout : String
  emergencyMinDistance : PyFloat α
  horizon : PyFloat α

section Build

variable {α : Type} [Field α] [LinearOrder α] [IsStrictOrderedRing α] (F : FloatFormat α)
  (L : MathLib α)

/-- `CV_ANGULAR_EPS`, the literal 1e-3 as the format holds it. -/
def cvAngularEps : PyFloat α := F.round (1 / 1000)

/-- `_predict`: along a circular arc, or straight on when the robot hardly turns. -/
def SituationBuilder.predict (b : SituationBuilder α) (snap : RobotSnapshot α) :
    Except PyErr (Position α) :=
  let v := snap.velocity.linear
  let omega := snap.velocity.angular
  let theta := snap.heading
  let t := b.horizon
  if omega.abs < cvAngularEps F then do
    let c ← trig L.cos theta
    let s ← trig L.sin theta
    return ⟨F.add snap.position.x (F.mul (F.mul v c) t), F.add snap.position.y (F.mul (F.mul v s) t)⟩
  else do
    let turned := F.add theta (F.mul omega t)
    let s' ← trig L.sin turned
    let s ← trig L.sin theta
    let c' ← trig L.cos turned
    let c ← trig L.cos theta
    return ⟨F.add snap.position.x (F.mul (F.div v omega) (F.sub s' s)),
      F.add snap.position.y (F.mul (F.div v omega) (F.add c'.neg c))⟩

omit [IsStrictOrderedRing α] in
/-- `_obstacle_ahead`. -/
def SituationBuilder.obstacleAhead (b : SituationBuilder α) (distance : Option (PyFloat α)) :
    Bool :=
  distance.any fun d => d < b.emergencyMinDistance

/-- `_enrich`. -/
def SituationBuilder.enrich (b : SituationBuilder α) (snap : RobotSnapshot α)
    (currentTask : Option String) : Except PyErr (RobotState α) :=
  if b.mode = openRmfMode then
    .ok ⟨snap.position, snap.status, snap.battery, currentTask, none⟩
  else do
    let predicted ← b.predict F L snap
    return ⟨snap.position, snap.status, snap.battery, currentTask,
      some ⟨snap.velocity, snap.heading, snap.obstacleDistance, predicted,
        b.obstacleAhead snap.obstacleDistance⟩⟩

/-- The robots of the situation, in the order of the snapshot. -/
def SituationBuilder.enrichAll (b : SituationBuilder α) (currentTasks : Dict String String) :
    List (String × RobotSnapshot α) → Except PyErr (Dict String (RobotState α)) :=
  List.foldlM (fun robots e => do
    let robot ← b.enrich F L e.2 (currentTasks.get? e.1)
    return robots.set e.1 robot) .empty

/-- `build`: nothing before there is a snapshot; a snapshot that does not validate raises. -/
def SituationBuilder.build (b : SituationBuilder α) (file : FileRead) (turn : ℕ) (genId : ℤ)
    (history : List HistoryEntry) (pendingTasks : List PendingTask)
    (currentTasks : Dict String String) : Except PyErr (Option (Situation α)) :=
  match file.read b.scan with
  | .error e => .error e
  | .ok .null => .ok none
  | .ok raw =>
    match b.validate raw with
    | none => .error .valueError
    | some snapshot => do
      let robots ← b.enrichAll F L currentTasks snapshot.robots.entries
      let emergency ← attachEmergency b.copies raw
      return some ⟨snapshot.timestamp, turn, genId, b.layout, robots, pendingTasks, history,
        emergency, none⟩

/-! ## When a situation can be built -/

omit [Field α] [LinearOrder α] [IsStrictOrderedRing α] in
/-- The angle has a sine. -/
def HasSine (a : PyFloat α) : Prop := a ≠ .posInf ∧ a ≠ .negInf

omit [Field α] [LinearOrder α] [IsStrictOrderedRing α] in
lemma HasSine.trig {a : PyFloat α} (h : HasSine a) (f : α → PyFloat α) :
    ∃ y, trig f a = .ok y := by
  cases a with
  | fin x => exact ⟨f x, rfl⟩
  | nan => exact ⟨.nan, rfl⟩
  | posInf => exact absurd rfl h.1
  | negInf => exact absurd rfl h.2

/-- The robot can be extrapolated: its heading has a sine, and when it turns so has the heading it
will have. -/
def SituationBuilder.Predictable (b : SituationBuilder α) (snap : RobotSnapshot α) : Prop :=
  HasSine snap.heading ∧ (¬ snap.velocity.angular.abs < cvAngularEps F →
    HasSine (F.add snap.heading (F.mul snap.velocity.angular b.horizon)))

lemma SituationBuilder.Predictable.predict {b : SituationBuilder α} {snap : RobotSnapshot α}
    (h : b.Predictable F snap) : ∃ p, b.predict F L snap = .ok p := by
  obtain ⟨hheading, hturned⟩ := h
  obtain ⟨c, hc⟩ := hheading.trig L.cos
  obtain ⟨s, hs⟩ := hheading.trig L.sin
  unfold SituationBuilder.predict
  by_cases hstraight : snap.velocity.angular.abs < cvAngularEps F
  · exact ⟨_, by simp only [if_pos hstraight, hc, hs]; rfl⟩
  · obtain ⟨c', hc'⟩ := (hturned hstraight).trig L.cos
    obtain ⟨s', hs'⟩ := (hturned hstraight).trig L.sin
    exact ⟨_, by simp only [if_neg hstraight, hc, hs, hc', hs']; rfl⟩

/-- A robot is enriched in the mode that needs no extrapolation, and otherwise when it can be
extrapolated. -/
lemma SituationBuilder.enrich_ok {b : SituationBuilder α} {snap : RobotSnapshot α}
    (h : b.mode = openRmfMode ∨ b.Predictable F snap) (currentTask : Option String) :
    ∃ robot, b.enrich F L snap currentTask = .ok robot := by
  unfold SituationBuilder.enrich
  by_cases hmode : b.mode = openRmfMode
  · exact ⟨_, if_pos hmode⟩
  · obtain ⟨p, hp⟩ := SituationBuilder.Predictable.predict F L (h.resolve_left hmode)
    exact ⟨_, by rw [if_neg hmode, hp]; rfl⟩

lemma SituationBuilder.enrichAll_ok {b : SituationBuilder α} (currentTasks : Dict String String)
    {es : List (String × RobotSnapshot α)}
    (h : ∀ e ∈ es, b.mode = openRmfMode ∨ b.Predictable F e.2) :
    ∃ robots, b.enrichAll F L currentTasks es = .ok robots := by
  have hfrom : ∀ start : Dict String (RobotState α), ∃ robots, es.foldlM (fun robots e => do
      let robot ← b.enrich F L e.2 (currentTasks.get? e.1)
      return robots.set e.1 robot) start = (.ok robots : Except PyErr _) := by
    induction es with
    | nil => exact fun start => ⟨start, rfl⟩
    | cons e es ih =>
      intro start
      obtain ⟨robot, hrobot⟩ :=
        SituationBuilder.enrich_ok F L (h e List.mem_cons_self) (currentTasks.get? e.1)
      obtain ⟨robots, hrobots⟩ :=
        ih (fun e he => h e (List.mem_cons_of_mem _ he)) (start.set e.1 robot)
      exact ⟨robots, by rw [List.foldlM_cons, hrobot]; exact hrobots⟩
  exact hfrom .empty

/-- The state file lets the situation be built: there is no snapshot yet, or it decodes, validates,
can be extrapolated where that is needed, and its emergency block can be copied. -/
def SituationBuilder.Readable (b : SituationBuilder α) (file : FileRead) : Prop :=
  ∃ raw, file.read b.scan = .ok raw ∧ (raw = .null ∨
    ∃ snapshot, b.validate raw = some snapshot ∧
      (∀ e ∈ snapshot.robots.entries, b.mode = openRmfMode ∨ b.Predictable F e.2) ∧
      ∀ emergency, raw.get? "emergency" = some emergency → b.copies emergency = true)

omit [Field α] [LinearOrder α] [IsStrictOrderedRing α] in
lemma attachEmergency_ok {copies : PyVal α → Bool} {raw : PyVal α}
    (h : ∀ emergency, raw.get? "emergency" = some emergency → copies emergency = true) :
    ∃ emergency, attachEmergency copies raw = .ok emergency := by
  unfold attachEmergency
  cases hget : raw.get? "emergency" with
  | none => exact ⟨none, rfl⟩
  | some emergency =>
    simp only [h emergency hget, Bool.not_true, Bool.false_eq_true, if_false]
    cases emergency with
    | null => exact ⟨none, rfl⟩
    | bool | int | float | str | list | dict => exact ⟨_, rfl⟩

/-- From a readable state file the situation is built, unless there is none yet. -/
theorem SituationBuilder.Readable.build {b : SituationBuilder α} {file : FileRead}
    (h : b.Readable F file) (turn : ℕ) (genId : ℤ) (history : List HistoryEntry)
    (pendingTasks : List PendingTask) (currentTasks : Dict String String) :
    ∃ built, b.build F L file turn genId history pendingTasks currentTasks = .ok built := by
  obtain ⟨raw, hread, hnull | ⟨snapshot, hvalid, hrobots, hcopies⟩⟩ := h
  · unfold SituationBuilder.build
    rw [hread, hnull]
    exact ⟨none, rfl⟩
  · obtain ⟨robots, hall⟩ := SituationBuilder.enrichAll_ok F L currentTasks hrobots
    obtain ⟨emergency, hemergency⟩ := attachEmergency_ok hcopies
    unfold SituationBuilder.build
    rw [hread]
    cases raw with
    | null => exact ⟨none, rfl⟩
    | bool | int | float | str | list | dict =>
      simp only [hvalid, hall, hemergency]
      exact ⟨_, rfl⟩

end Build

end LlmBridge

end MiniatureWarehouse
