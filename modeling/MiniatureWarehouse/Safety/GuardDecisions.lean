import MiniatureWarehouse.Framework.Edges
import MiniatureWarehouse.Safety.GuardLogic

/-!
# What the decisions of a tick say

The stop predicates of the guardian, stated on the two snapshots of a tick without reference to
how `evaluate` is written, and the three facts every consumer of its decisions rests on: no
alarm is decided twice, a robot is stopped exactly when one of its predicates holds, and the
stop request of a robot is the same question.

Each rule decides one alarm for the robot it looks at (`Decides`).  That is all the proofs use
of the rules beyond the condition under which each fires.
-/

namespace MiniatureWarehouse

variable {α : Type*} [Field α] [LinearOrder α]

/-! ## The stop predicates -/

section Predicates

/-- An arrival age that is not a reading: never received, not a number, or negative. -/
def UnknownAge (age : Option (PyFloat α)) : Prop :=
  age = none ∨ age = some .nan ∨ ∃ a, age = some a ∧ a < .fin 0

/-- `near_collision`: both poses are known and finite, and closer than the threshold. -/
def NearCollision [IsStrictOrderedRing α] (F : FloatFormat α) (L : MathLib α)
    (cfg : GuardConfig α) (a b : BotState α) : Prop :=
  ∃ ax ay bx b_y, a.x = some (.fin ax) ∧ a.y = some (.fin ay) ∧ b.x = some (.fin bx) ∧
    b.y = some (.fin b_y) ∧
    distance F L (.fin ax) (.fin ay) (.fin bx) (.fin b_y) < cfg.distanceThreshold

/-- `battery_critical`: a finite reading at or below the critical percentage. -/
def BatteryCritical (s : BotState α) : Prop :=
  ∃ pct, s.batteryPct = some (.fin pct) ∧ pct ≤ 10

/-- `pose_stale`: a pose was received, its age is unknown or past the window, and the
displacement gate is open. -/
def PoseStale (cfg : GuardConfig α) (s : BotState α) : Prop :=
  ∃ age, s.poseAge = some age ∧ (UnknownAge (some age) ∨ cfg.poseFreshnessTimeout < age) ∧
    poseGateOpen s cfg.poseGateMotionEpsilon cfg.poseGateAngularEpsilon = true

/-- `operator_stop_request`: the latch is engaged. -/
def OperatorStop (s : BotState α) : Prop := s.operatorStopRequested = true

/-- `scan_stale`: a known age past the window, or an unknown one of a robot that is alive. -/
def ScanStale (cfg : GuardConfig α) (s : BotState α) : Prop :=
  (UnknownAge s.scanAge ∧ s.odomSeen = true) ∨
    ∃ age, s.scanAge = some age ∧ ¬ UnknownAge (some age) ∧ cfg.scanFreshnessTimeout < age

/-- `terrain_health`: a verdict that is not `OK`, and not the absence of a robot that has never
been alive. -/
def TerrainUnhealthy (s : BotState α) : Prop :=
  ∃ verdict, s.terrainVerdict = some verdict ∧ verdict ≠ "OK" ∧
    (verdict = "ABSENT" → s.odomSeen = true)

/-- One of the six stop predicates holds for the robot `s` of the tick `(a, b)`. -/
def MustStop [IsStrictOrderedRing α] (F : FloatFormat α) (L : MathLib α) (cfg : GuardConfig α)
    (a b s : BotState α) : Prop :=
  NearCollision F L cfg a b ∨ BatteryCritical s ∨ PoseStale cfg s ∨ OperatorStop s ∨
    ScanStale cfg s ∨ TerrainUnhealthy s

end Predicates

/-! ## The rules -/

section Rules

/-- A rule that decides one alarm, and only about the robot it looks at. -/
def Decides (rule : BotState α → Option (Decision α)) (action : Action) (reason : Reason) : Prop :=
  ∀ s d, rule s = some d → d.bot = s.bot ∧ d.action = action ∧ d.reason = reason

lemma decides_battery : Decides (α := α) batteryRule .estop .batteryCritical := by
  intro s d h
  unfold batteryRule at h
  split at h
  · split_ifs at h
    cases h
    exact ⟨rfl, rfl, rfl⟩
  · cases h

omit [Field α] in
lemma decides_blocked (cfg : GuardConfig α) :
    Decides (blockedRule cfg) .recovery .blockedTimeout := by
  intro s d h
  unfold blockedRule at h
  split_ifs at h
  cases h
  exact ⟨rfl, rfl, rfl⟩

lemma decides_pose (cfg : GuardConfig α) : Decides (poseRule cfg) .estop .poseStale := by
  intro s d h
  unfold poseRule at h
  split at h
  · cases h
  · split_ifs at h
    cases h
    exact ⟨rfl, rfl, rfl⟩

omit [Field α] [LinearOrder α] in
lemma decides_operator : Decides (α := α) operatorRule .estop .operatorStopRequest := by
  intro s d h
  unfold operatorRule at h
  split_ifs at h
  cases h
  exact ⟨rfl, rfl, rfl⟩

lemma decides_scan (cfg : GuardConfig α) : Decides (scanRule cfg) .estop .scanStale := by
  intro s d h
  unfold scanRule at h
  split_ifs at h
  cases h
  exact ⟨rfl, rfl, rfl⟩

omit [Field α] [LinearOrder α] in
lemma decides_terrain : Decides (α := α) terrainRule .estop .terrainHealth := by
  intro s d h
  unfold terrainRule at h
  split at h
  · cases h
  · split_ifs at h
    cases h
    exact ⟨rfl, rfl, rfl⟩

lemma ageIsUnknown_iff (age : Option (PyFloat α)) : ageIsUnknown age = true ↔ UnknownAge age := by
  cases age with
  | none => simp [ageIsUnknown, UnknownAge]
  | some a => cases a <;> simp [ageIsUnknown, UnknownAge, PyFloat.isNaN]

lemma isSome_batteryRule (s : BotState α) : (batteryRule s).isSome = true ↔ BatteryCritical s := by
  unfold batteryRule BatteryCritical
  cases hpct : s.batteryPct with
  | none => simp
  | some pct => cases pct <;> simp [batteryIsCritical, batteryCriticalPct]

lemma isSome_poseRule (cfg : GuardConfig α) (s : BotState α) :
    (poseRule cfg s).isSome = true ↔ PoseStale cfg s := by
  unfold poseRule PoseStale
  cases hage : s.poseAge with
  | none => simp
  | some age =>
    have hunknown : ageIsUnknown (some age) = true ↔ UnknownAge (some age) := ageIsUnknown_iff _
    by_cases hu : UnknownAge (some age) <;> by_cases ht : cfg.poseFreshnessTimeout < age <;>
      by_cases hg : poseGateOpen s cfg.poseGateMotionEpsilon cfg.poseGateAngularEpsilon = true <;>
      simp [hunknown, hu, ht, hg]

omit [Field α] [LinearOrder α] in
lemma isSome_operatorRule (s : BotState α) : (operatorRule s).isSome = true ↔ OperatorStop s := by
  unfold operatorRule OperatorStop
  cases s.operatorStopRequested <;> simp

lemma isSome_scanRule (cfg : GuardConfig α) (s : BotState α) :
    (scanRule cfg s).isSome = true ↔ ScanStale cfg s := by
  have hrule : (scanRule cfg s).isSome = true ↔ scanIsStale cfg s = true := by
    unfold scanRule
    cases scanIsStale cfg s <;> simp
  rw [hrule]
  unfold scanIsStale ScanStale
  cases hage : s.scanAge with
  | none => simp [UnknownAge]
  | some age =>
    have hunknown : ageIsUnknown (some age) = true ↔ UnknownAge (some age) := ageIsUnknown_iff _
    by_cases hu : UnknownAge (some age) <;> simp [hunknown, hu]

omit [Field α] [LinearOrder α] in
lemma isSome_terrainRule (s : BotState α) :
    (terrainRule s).isSome = true ↔ TerrainUnhealthy s := by
  unfold terrainRule TerrainUnhealthy
  cases s.terrainVerdict with
  | none => simp
  | some verdict =>
    by_cases hok : verdict = "OK"
    · simp [hok]
    · by_cases habsent : verdict = "ABSENT"
      · cases s.odomSeen <;> simp [habsent]
      · simp [hok, habsent]

end Rules

/-! ## A rule applied to both robots -/

section Pair

variable {rule : BotState α → Option (Decision α)} {action : Action} {reason : Reason}

omit [Field α] [LinearOrder α] in
/-- The alarms a rule decides in a tick are among its alarm for either robot, in this order. -/
lemma Decides.keys_sublist (h : Decides rule action reason) (a b : BotState α) :
    (([a, b].filterMap rule).map Decision.key).Sublist [(a.bot, reason), (b.bot, reason)] := by
  have hkey : ∀ s d, rule s = some d → d.key = (s.bot, reason) := by
    intro s d hd
    obtain ⟨hbot, -, hreason⟩ := h s d hd
    rw [Decision.key, hbot, hreason]
  cases ha : rule a with
  | none =>
    cases hb : rule b with
    | none => simp [ha, hb]
    | some d => simp [ha, hb, hkey b d hb]
  | some d =>
    cases hb : rule b with
    | none => simp [ha, hb, hkey a d ha]
    | some d' => simp [ha, hb, hkey a d ha, hkey b d' hb]

omit [Field α] [LinearOrder α] in
/-- A stopping rule stops a robot of the tick exactly when it fires for it. -/
lemma Decides.exists_estop_iff (h : Decides rule .estop reason) {a b s : BotState α}
    (hne : a.bot ≠ b.bot) (hs : s = a ∨ s = b) :
    (∃ d ∈ [a, b].filterMap rule, d.bot = s.bot ∧ d.action = .estop) ↔
      (rule s).isSome = true := by
  have hmem : ∀ d, d ∈ [a, b].filterMap rule ↔ rule a = some d ∨ rule b = some d := by
    intro d
    rw [List.mem_filterMap]
    simp
  constructor
  · rintro ⟨d, hd, hbot, -⟩
    -- the decision names the robot it was made for, and the two names differ
    rcases (hmem d).mp hd with ha | hb
    · have hname : d.bot = a.bot := (h a d ha).1
      rcases hs with rfl | rfl
      · rw [ha]
        rfl
      · exact absurd (hname.symm.trans hbot) hne
    · have hname : d.bot = b.bot := (h b d hb).1
      rcases hs with rfl | rfl
      · exact absurd (hbot.symm.trans hname) hne
      · rw [hb]
        rfl
  · intro hsome
    obtain ⟨d, hd⟩ := Option.isSome_iff_exists.mp hsome
    obtain ⟨hbot, haction, -⟩ := h s d hd
    refine ⟨d, (hmem d).mpr ?_, hbot, haction⟩
    rcases hs with rfl | rfl
    · exact .inl hd
    · exact .inr hd

omit [Field α] [LinearOrder α] in
/-- A recovery rule stops nobody. -/
lemma Decides.not_exists_estop (h : Decides rule .recovery reason) (a b : BotState α)
    (bot : String) : ¬ ∃ d ∈ [a, b].filterMap rule, d.bot = bot ∧ d.action = .estop := by
  rintro ⟨d, hd, -, hestop⟩
  obtain ⟨s, -, hs⟩ := List.mem_filterMap.mp hd
  have haction : d.action = .recovery := (h s d hs).2.1
  rw [hestop] at haction
  cases haction

end Pair

/-! ## The whole tick -/

section Tick

variable [IsStrictOrderedRing α] (F : FloatFormat α) (L : MathLib α) (cfg : GuardConfig α)

variable {F L cfg} in
lemma interBotDistance_eq_some {a b : BotState α} {d : PyFloat α} :
    interBotDistance F L a b = some d ↔
      ∃ ax ay bx b_y, a.x = some (.fin ax) ∧ a.y = some (.fin ay) ∧ b.x = some (.fin bx) ∧
        b.y = some (.fin b_y) ∧
        distance F L (.fin ax) (.fin ay) (.fin bx) (.fin b_y) = d := by
  unfold interBotDistance hasPose
  constructor
  · intro h
    split_ifs at h with hpose
    split at h
    · rename_i ax ay bx b_y hax hay hbx hby
      rw [hax, hay, hbx, hby, Bool.and_eq_true, Bool.and_eq_true, Bool.and_eq_true] at hpose
      obtain ⟨⟨hfax, hfay⟩, hfbx, hfby⟩ := hpose
      obtain ⟨x, rfl⟩ := PyFloat.isFinite_iff.mp hfax
      obtain ⟨y, rfl⟩ := PyFloat.isFinite_iff.mp hfay
      obtain ⟨x', rfl⟩ := PyFloat.isFinite_iff.mp hfbx
      obtain ⟨y', rfl⟩ := PyFloat.isFinite_iff.mp hfby
      exact ⟨x, y, x', y', hax, hay, hbx, hby, Option.some.inj h⟩
    · cases h
  · rintro ⟨ax, ay, bx, b_y, hax, hay, hbx, hby, rfl⟩
    simp [hax, hay, hbx, hby]

lemma nearCollision_iff (a b : BotState α) :
    NearCollision F L cfg a b ↔
      ∃ d, interBotDistance F L a b = some d ∧ d < cfg.distanceThreshold := by
  constructor
  · rintro ⟨ax, ay, bx, b_y, hax, hay, hbx, hby, hlt⟩
    exact ⟨_, interBotDistance_eq_some.mpr ⟨ax, ay, bx, b_y, hax, hay, hbx, hby, rfl⟩, hlt⟩
  · rintro ⟨d, hd, hlt⟩
    obtain ⟨ax, ay, bx, b_y, hax, hay, hbx, hby, rfl⟩ := interBotDistance_eq_some.mp hd
    exact ⟨ax, ay, bx, b_y, hax, hay, hbx, hby, hlt⟩

/-- What the proximity rule decides: a stop for both robots, or nothing. -/
lemma nearCollisionRule_cases (a b : BotState α) :
    (NearCollision F L cfg a b ∧ ∃ da db, nearCollisionRule F L cfg a b =
        [⟨a.bot, .estop, .nearCollision, some da⟩, ⟨b.bot, .estop, .nearCollision, some db⟩]) ∨
      (¬ NearCollision F L cfg a b ∧ nearCollisionRule F L cfg a b = []) := by
  rw [nearCollision_iff]
  unfold nearCollisionRule
  cases hd : interBotDistance F L a b with
  | none => exact .inr ⟨by simp, rfl⟩
  | some d =>
    by_cases hlt : d < cfg.distanceThreshold
    · exact .inl ⟨⟨d, rfl, hlt⟩, _, _, if_pos hlt⟩
    · refine .inr ⟨?_, if_neg hlt⟩
      rintro ⟨d', hd', hlt'⟩
      exact hlt (Option.some.inj hd' ▸ hlt')

/-- The reasons in the order of the rules. -/
def reasons : List Reason :=
  [.nearCollision, .batteryCritical, .blockedTimeout, .poseStale, .operatorStopRequest,
    .scanStale, .terrainHealth]

/-- Every alarm of two robots, in the order of the rules. -/
def alarms (a b : String) : List (String × Reason) :=
  reasons.flatMap fun reason => [(a, reason), (b, reason)]

/-- The alarms of a tick, in the order decided, are some of all alarms in the order of the
rules. -/
lemma keys_evaluate_sublist (a b : BotState α) :
    ((evaluate F L cfg a b).map Decision.key).Sublist (alarms a.bot b.bot) := by
  have hnear : ((nearCollisionRule F L cfg a b).map Decision.key).Sublist
      [(a.bot, .nearCollision), (b.bot, .nearCollision)] := by
    rcases nearCollisionRule_cases F L cfg a b with ⟨-, da, db, h⟩ | ⟨-, h⟩
    · rw [h]
      exact List.Sublist.refl _
    · rw [h]
      exact List.nil_sublist _
  unfold evaluate
  simp only [List.map_append]
  have hall := hnear.append (decides_battery.keys_sublist a b)
    |>.append ((decides_blocked cfg).keys_sublist a b)
    |>.append ((decides_pose cfg).keys_sublist a b)
    |>.append (decides_operator.keys_sublist a b)
    |>.append ((decides_scan cfg).keys_sublist a b)
    |>.append (decides_terrain.keys_sublist a b)
  exact hall

lemma nodup_alarms {a b : String} (h : a ≠ b) : (alarms a b).Nodup := by
  simp [alarms, reasons, h, h.symm]

/-- **No alarm is decided twice.** -/
theorem nodup_keys_evaluate {a b : BotState α} (h : a.bot ≠ b.bot) :
    ((evaluate F L cfg a b).map Decision.key).Nodup :=
  (nodup_alarms h).sublist (keys_evaluate_sublist F L cfg a b)

/-- **A robot is stopped exactly when one of its stop predicates holds.** -/
theorem exists_estop_evaluate_iff {a b s : BotState α} (h : a.bot ≠ b.bot) (hs : s = a ∨ s = b) :
    (∃ d ∈ evaluate F L cfg a b, d.bot = s.bot ∧ d.action = .estop) ↔
      MustStop F L cfg a b s := by
  have hnear : (∃ d ∈ nearCollisionRule F L cfg a b, d.bot = s.bot ∧ d.action = .estop) ↔
      NearCollision F L cfg a b := by
    rcases nearCollisionRule_cases F L cfg a b with ⟨hyes, da, db, hrule⟩ | ⟨hno, hrule⟩
    · rw [hrule]
      rcases hs with rfl | rfl <;> simp [hyes]
    · rw [hrule]
      simp [hno]
  have hblocked := (decides_blocked cfg).not_exists_estop a b s.bot
  unfold evaluate MustStop
  simp only [List.mem_append, or_and_right, exists_or]
  rw [hnear, decides_battery.exists_estop_iff h hs, (decides_pose cfg).exists_estop_iff h hs,
    decides_operator.exists_estop_iff h hs, (decides_scan cfg).exists_estop_iff h hs,
    decides_terrain.exists_estop_iff h hs, isSome_batteryRule, isSome_poseRule,
    isSome_operatorRule, isSome_scanRule, isSome_terrainRule]
  simp only [hblocked, or_false, or_assoc]

omit [Field α] [LinearOrder α] [IsStrictOrderedRing α] in
/-- The stop request asks for an emergency stop among the decisions. -/
lemma stopRequestedFor_iff (decisions : List (Decision α)) (bot : String) :
    stopRequestedFor decisions bot = true ↔
      ∃ d ∈ decisions, d.bot = bot ∧ d.action = .estop := by
  simp [stopRequestedFor, List.any_eq_true]

end Tick

end MiniatureWarehouse
