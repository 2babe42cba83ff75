import MiniatureWarehouse.Safety.GuardDecisions

/-!
# Relations between two ticks

What `evaluate` promises about pairs of calls.  Exchanging the two robots permutes the decisions;
a decision other than the proximity one comes from one robot's own snapshot; and making the
inputs of either robot more hazardous (`Worse`) takes no decision away.

Exchanging the robots negates the coordinate differences, so the first part rests on two facts
about the arithmetic: rounding is symmetric about zero, and the hypotenuse ignores signs.

The displacement of the pose gate is not monotone at `-inf`: a reading that is not finite opens
the gate, as every unknown does, and a finite one may close it.
-/

namespace MiniatureWarehouse

variable {α : Type*} [Field α] [LinearOrder α]

/-! ## What two decisions have in common -/

section Content

/-- A decision with its detail as a mapping from names. -/
def Decision.content (d : Decision α) : String × Action × Reason × (String → Option (PyVal α)) :=
  (d.bot, d.action, d.reason, fun name => d.detail.bind fun detail => detail.get? name)

/-- A decision up to the partner its detail names: of a proximity detail only the distance. -/
def Decision.core (d : Decision α) : String × Action × Reason × Option (PyVal α) :=
  (d.bot, d.action, d.reason,
    if d.reason = .nearCollision then d.detail.bind fun detail => detail.get? "distance"
    else d.detail)

omit [Field α] [LinearOrder α] in
/-- The detail of a proximity event by name: the position blocks win over the fixed names. -/
lemma get?_nearCollisionDetail (d : PyFloat α) (a b : BotState α) (otherRobot name : String) :
    (nearCollisionDetail d a b otherRobot).get? name =
      if name = b.bot ++ "_position" then
        some (.dict [("x", .ofFloat? b.x), ("y", .ofFloat? b.y)])
      else if name = a.bot ++ "_position" then
        some (.dict [("x", .ofFloat? a.x), ("y", .ofFloat? a.y)])
      else if name = "other_robot" then some (.str otherRobot)
      else if name = "distance" then some (.float d) else none := by
  simp only [nearCollisionDetail, PyVal.ofPairs, List.foldl, PyVal.get?, Dict.find_assign,
    Dict.find]

/-- No robot's position block is named like the distance. -/
lemma distance_ne_position (bot : String) : "distance" ≠ bot ++ "_position" := by
  intro h
  have hlength := congrArg String.length h
  rw [String.length_append] at hlength
  have hdistance : "distance".length = 8 := rfl
  have hposition : "_position".length = 9 := rfl
  omega

/-- The position blocks of two robots have different names. -/
lemma position_ne_position {a b : String} (h : a ≠ b) : a ++ "_position" ≠ b ++ "_position" := by
  intro heq
  apply h
  have hlists := congrArg String.toList heq
  rw [String.toList_append, String.toList_append] at hlists
  exact String.toList_inj.mp (List.append_cancel_right hlists)

omit [Field α] [LinearOrder α] in
/-- The part of a tick that is not about proximity only changes its order. -/
lemma filterMap_pair_perm (rule : BotState α → Option (Decision α)) (a b : BotState α) :
    ([a, b].filterMap rule).Perm ([b, a].filterMap rule) :=
  (List.Perm.swap b a []).filterMap rule

end Content

/-! ## Exchanging the robots -/

section Exchange

variable [IsStrictOrderedRing α] {F : FloatFormat α} {L : MathLib α} (cfg : GuardConfig α)

/-- The distance does not depend on the order of the two points. -/
lemma distance_comm (hround : ∀ x, F.round (-x) = (F.round x).neg)
    (hhypot : ∀ x y : PyFloat α, L.hypot x.neg y.neg = L.hypot x y) (ax ay bx b_y : α) :
    distance F L (.fin ax) (.fin ay) (.fin bx) (.fin b_y) =
      distance F L (.fin bx) (.fin b_y) (.fin ax) (.fin ay) := by
  have hsub : ∀ x y : α, F.sub (.fin x) (.fin y) = (F.sub (.fin y) (.fin x)).neg := by
    intro x y
    show F.round (x + -y) = (F.round (y + -x)).neg
    rw [← hround]
    congr 1
    ring
  unfold distance
  rw [hsub ax bx, hsub ay b_y, hhypot]

lemma interBotDistance_comm (hround : ∀ x, F.round (-x) = (F.round x).neg)
    (hhypot : ∀ x y : PyFloat α, L.hypot x.neg y.neg = L.hypot x y) (a b : BotState α) :
    interBotDistance F L a b = interBotDistance F L b a := by
  ext d
  simp only [interBotDistance_eq_some]
  constructor
  · rintro ⟨ax, ay, bx, b_y, hax, hay, hbx, hby, rfl⟩
    exact ⟨bx, b_y, ax, ay, hbx, hby, hax, hay, distance_comm hround hhypot bx b_y ax ay⟩
  · rintro ⟨bx, b_y, ax, ay, hbx, hby, hax, hay, rfl⟩
    exact ⟨ax, ay, bx, b_y, hax, hay, hbx, hby, distance_comm hround hhypot ax ay bx b_y⟩

/-- Whatever is read off a decision, exchanging the robots permutes it, provided it does so for
the proximity rule. -/
lemma map_evaluate_perm {β : Type*} (f : Decision α → β) (a b : BotState α)
    (hnear : ((nearCollisionRule F L cfg a b).map f).Perm ((nearCollisionRule F L cfg b a).map f)) :
    ((evaluate F L cfg a b).map f).Perm ((evaluate F L cfg b a).map f) := by
  unfold evaluate
  simp only [List.map_append]
  have hpair := fun rule => (filterMap_pair_perm (α := α) rule a b).map f
  exact hnear.append (hpair batteryRule) |>.append (hpair _) |>.append (hpair _)
    |>.append (hpair _) |>.append (hpair _) |>.append (hpair _)

/-- Up to the named partner, exchanging the robots permutes the decisions. -/
lemma map_core_evaluate_perm (hround : ∀ x, F.round (-x) = (F.round x).neg)
    (hhypot : ∀ x y : PyFloat α, L.hypot x.neg y.neg = L.hypot x y) (a b : BotState α) :
    ((evaluate F L cfg a b).map Decision.core).Perm
      ((evaluate F L cfg b a).map Decision.core) := by
  apply map_evaluate_perm
  unfold nearCollisionRule
  rw [interBotDistance_comm hround hhypot a b]
  cases interBotDistance F L b a with
  | none => exact List.Perm.refl _
  | some d =>
    have hdistance : ∀ s t other, (nearCollisionDetail d s t other).get? "distance" =
        some (.float d) := by
      intro s t other
      rw [get?_nearCollisionDetail, if_neg (distance_ne_position t.bot),
        if_neg (distance_ne_position s.bot), if_neg (by decide), if_pos rfl]
    dsimp only
    split_ifs with hclose
    · simp only [List.map_cons, List.map_nil, Decision.core, if_true, Option.bind_some, hdistance]
      exact List.Perm.swap _ _ _
    · exact List.Perm.refl _

/-- Two robots with different names are told exactly the same in either order. -/
lemma map_content_evaluate_perm (hround : ∀ x, F.round (-x) = (F.round x).neg)
    (hhypot : ∀ x y : PyFloat α, L.hypot x.neg y.neg = L.hypot x y) {a b : BotState α}
    (hne : a.bot ≠ b.bot) :
    ((evaluate F L cfg a b).map Decision.content).Perm
      ((evaluate F L cfg b a).map Decision.content) := by
  apply map_evaluate_perm
  unfold nearCollisionRule
  rw [interBotDistance_comm hround hhypot a b]
  cases interBotDistance F L b a with
  | none => exact List.Perm.refl _
  | some d =>
    have hswap : ∀ other name, (nearCollisionDetail d a b other).get? name =
        (nearCollisionDetail d b a other).get? name := by
      intro other name
      rw [get?_nearCollisionDetail, get?_nearCollisionDetail]
      by_cases ha : name = a.bot ++ "_position"
      · have hb : name ≠ b.bot ++ "_position" := fun hb =>
          position_ne_position hne (ha.symm.trans hb)
        rw [if_neg hb, if_pos ha, if_pos ha]
      · rw [if_neg ha, if_neg ha]
    dsimp only
    split_ifs with hclose
    · simp only [List.map_cons, List.map_nil, Decision.content, Option.bind_some, hswap]
      exact List.Perm.swap _ _ _
    · exact List.Perm.refl _

end Exchange

/-! ## Each robot on its own -/

section Local

variable (cfg : GuardConfig α)

/-- The rule behind a reason, for every reason but proximity. -/
def ownRule : Reason → BotState α → Option (Decision α)
  | .nearCollision => fun _ => none
  | .batteryCritical => batteryRule
  | .blockedTimeout => blockedRule cfg
  | .poseStale => poseRule cfg
  | .operatorStopRequest => operatorRule
  | .scanStale => scanRule cfg
  | .terrainHealth => terrainRule

/-- The action a reason asks for. -/
def actionOf : Reason → Action
  | .blockedTimeout => .recovery
  | _ => .estop

lemma decides_ownRule (reason : Reason) :
    Decides (ownRule cfg reason) (actionOf reason) reason := by
  cases reason with
  | nearCollision =>
    intro s d h
    cases h
  | batteryCritical => exact decides_battery
  | blockedTimeout => exact decides_blocked cfg
  | poseStale => exact decides_pose cfg
  | operatorStopRequest => exact decides_operator
  | scanStale => exact decides_scan cfg
  | terrainHealth => exact decides_terrain

/-- A tick is the proximity rule followed by every other rule on both robots. -/
lemma evaluate_eq [IsStrictOrderedRing α] (F : FloatFormat α) (L : MathLib α) (a b : BotState α) :
    evaluate F L cfg a b = nearCollisionRule F L cfg a b ++
      reasons.flatMap fun reason => [a, b].filterMap (ownRule cfg reason) := by
  simp only [evaluate, reasons, List.flatMap_cons, List.flatMap_nil, List.append_nil, ownRule,
    List.append_assoc, List.filterMap_none, List.nil_append]

lemma reason_of_mem_near [IsStrictOrderedRing α] {F : FloatFormat α} {L : MathLib α}
    {a b : BotState α} {d : Decision α} (h : d ∈ nearCollisionRule F L cfg a b) :
    d.reason = .nearCollision := by
  rcases nearCollisionRule_cases F L cfg a b with ⟨-, da, db, hrule⟩ | ⟨-, hrule⟩
  · rw [hrule] at h
    simp only [List.mem_cons, List.not_mem_nil, or_false] at h
    rcases h with rfl | rfl
    · rfl
    · rfl
  · rw [hrule] at h
    cases h

omit [Field α] [LinearOrder α] in
/-- Of what a rule decides for two robots with different names, one robot's share is what the
rule decides for it. -/
lemma Decides.filter_bot {rule : BotState α → Option (Decision α)} {action : Action}
    {reason : Reason} (h : Decides rule action reason) {a b : BotState α} (hne : a.bot ≠ b.bot) :
    ([a, b].filterMap rule).filter (fun d => d.bot = a.bot) = (rule a).toList ∧
      ([a, b].filterMap rule).filter (fun d => d.bot = b.bot) = (rule b).toList := by
  cases ha : rule a with
  | none =>
    cases hb : rule b with
    | none => simp [ha, hb]
    | some e =>
      have hebot : e.bot = b.bot := (h b e hb).1
      simp [ha, hb, hebot, hne.symm]
  | some d =>
    have hdbot : d.bot = a.bot := (h a d ha).1
    cases hb : rule b with
    | none => simp [ha, hb, hdbot, hne]
    | some e =>
      have hebot : e.bot = b.bot := (h b e hb).1
      simp [ha, hb, hdbot, hebot, hne, hne.symm]

lemma reason_ne_of_mem_own {reason : Reason} {a b : BotState α} {d : Decision α}
    (hd : d ∈ [a, b].filterMap (ownRule cfg reason)) : d.reason ≠ .nearCollision := by
  obtain ⟨s, -, hs⟩ := List.mem_filterMap.mp hd
  have hreason : d.reason = reason := (decides_ownRule cfg reason s d hs).2.2
  intro hnear
  rw [← hreason, hnear] at hs
  cases hs

/-- The decisions of a rule about one robot, proximity aside, are the decisions about it. -/
lemma filter_own (reason : Reason) (a b : BotState α) (bot : String) :
    ([a, b].filterMap (ownRule cfg reason)).filter
        (fun d => d.bot = bot ∧ d.reason ≠ .nearCollision) =
      ([a, b].filterMap (ownRule cfg reason)).filter (fun d => d.bot = bot) := by
  apply List.filter_congr
  intro d hd
  simp [reason_ne_of_mem_own cfg hd]

/-- What the rules decide for one robot, in their order. -/
def ownDecisions (s : BotState α) : List (Decision α) :=
  reasons.flatMap fun reason => (ownRule cfg reason s).toList

/-- Proximity aside, a tick decides what the rules decide for the one snapshot and for the other,
whatever the robots are called. -/
lemma filter_evaluate_perm [IsStrictOrderedRing α] (F : FloatFormat α) (L : MathLib α)
    (a b : BotState α) :
    ((evaluate F L cfg a b).filter fun d => d.reason ≠ .nearCollision).Perm
      (ownDecisions cfg a ++ ownDecisions cfg b) := by
  have hnear : (nearCollisionRule F L cfg a b).filter (fun d => d.reason ≠ .nearCollision) =
      [] := by
    rw [List.filter_eq_nil_iff]
    intro d hd
    simp [reason_of_mem_near cfg hd]
  have hown : ∀ reason, ([a, b].filterMap (ownRule cfg reason)).filter
      (fun d => d.reason ≠ .nearCollision) =
      (ownRule cfg reason a).toList ++ (ownRule cfg reason b).toList := by
    intro reason
    have hall : ([a, b].filterMap (ownRule cfg reason)).filter
        (fun d => d.reason ≠ .nearCollision) = [a, b].filterMap (ownRule cfg reason) := by
      rw [List.filter_eq_self]
      intro d hd
      exact decide_eq_true (reason_ne_of_mem_own cfg hd)
    rw [hall]
    cases ha : ownRule cfg reason a <;> cases hb : ownRule cfg reason b <;> simp [ha, hb]
  rw [evaluate_eq, List.filter_append, hnear, List.nil_append, List.filter_flatMap]
  simp only [hown]
  exact (List.flatMap_append_perm reasons _ _).symm

/-- **Each robot on its own.**  The decisions about a robot, proximity aside, are what the rules
decide for its own snapshot. -/
lemma filter_evaluate [IsStrictOrderedRing α] (F : FloatFormat α) (L : MathLib α)
    {a b : BotState α} (hne : a.bot ≠ b.bot) :
    (evaluate F L cfg a b).filter (fun d => d.bot = a.bot ∧ d.reason ≠ .nearCollision) =
        ownDecisions cfg a ∧
      (evaluate F L cfg a b).filter (fun d => d.bot = b.bot ∧ d.reason ≠ .nearCollision) =
        ownDecisions cfg b := by
  have hnear : ∀ bot : String, (nearCollisionRule F L cfg a b).filter
      (fun d => d.bot = bot ∧ d.reason ≠ .nearCollision) = [] := by
    intro bot
    rw [List.filter_eq_nil_iff]
    intro d hd
    simp [reason_of_mem_near cfg hd]
  rw [evaluate_eq, List.filter_append, List.filter_append, hnear, hnear, List.nil_append,
    List.nil_append, List.filter_flatMap, List.filter_flatMap]
  unfold ownDecisions
  constructor
  · congr 1
    funext reason
    show List.filter _ ([a, b].filterMap (ownRule cfg reason)) = _
    rw [filter_own, ((decides_ownRule cfg reason).filter_bot hne).1]
  · congr 1
    funext reason
    show List.filter _ ([a, b].filterMap (ownRule cfg reason)) = _
    rw [filter_own, ((decides_ownRule cfg reason).filter_bot hne).2]

end Local

/-! ## More hazardous inputs -/

section Monotone

/-- An age that is not negative has grown, or nothing changed. -/
def AgeGrown (age age' : Option (PyFloat α)) : Prop :=
  age' = age ∨ ∃ t t', age = some t ∧ age' = some t' ∧ .fin 0 ≤ t ∧ t ≤ t'

/-- The snapshot `s'` is `s` with any of its inputs made more hazardous. -/
structure Worse (s s' : BotState α) : Prop where
  bot : s'.bot = s.bot
  x : s'.x = s.x
  y : s'.y = s.y
  battery : s'.batteryPct = s.batteryPct ∨
    ∃ pct pct', s.batteryPct = some pct ∧ s'.batteryPct = some (.fin pct') ∧ .fin pct' ≤ pct
  blocked : s'.blockedDuration = s.blockedDuration ∨ s.blockedDuration ≤ s'.blockedDuration
  poseAge : AgeGrown s.poseAge s'.poseAge
  scanAge : AgeGrown s.scanAge s'.scanAge
  disp : s'.odomDispSincePose = s.odomDispSincePose ∨
    ∃ d d', s.odomDispSincePose = some d ∧ s'.odomDispSincePose = some d' ∧ d ≤ d'
  dyaw : s'.odomDyawSincePose = s.odomDyawSincePose ∨
    ∃ d d', s.odomDyawSincePose = some d ∧ s'.odomDyawSincePose = some d' ∧ d.abs ≤ d'.abs
  odomSeen : s.odomSeen = true → s'.odomSeen = true
  operatorStop : s.operatorStopRequested = true → s'.operatorStopRequested = true
  terrain : s'.terrainVerdict = s.terrainVerdict ∨
    (s.terrainVerdict = none ∨ s.terrainVerdict = some "OK") ∨
    (s.terrainVerdict = some "ABSENT" ∧ ∃ v, s'.terrainVerdict = some v ∧ v ≠ "OK")

/-- The displacement did not move away from `-inf`, a reading the gate treats as unknown. -/
def DispUsable (s s' : BotState α) : Prop :=
  s.odomDispSincePose = some .negInf → s'.odomDispSincePose = some .negInf

lemma abs_ne_negInf (d : PyFloat α) : d.abs ≠ .negInf := by
  cases d <;> simp [PyFloat.abs]

omit [Field α] in
/-- A reading past a threshold stays past it as it grows. -/
lemma lt_of_grown {t d d' : PyFloat α} (h : d' = d ∨ d ≤ d') (ht : t < d) : t < d' := by
  rcases h with rfl | h
  · exact ht
  · exact PyFloat.lt_of_lt_of_le ht h

lemma not_unknownAge {t : PyFloat α} (h : .fin 0 ≤ t) : ¬ UnknownAge (some t) := by
  rintro (h' | h' | ⟨u, h', hneg⟩)
  · cases h'
  · obtain rfl := Option.some.inj h'
    exact PyFloat.not_le_nan h
  · obtain rfl := Option.some.inj h'
    exact PyFloat.not_lt_of_le h hneg

omit [Field α] in
/-- A reading past its threshold stays past it as it grows, unless it grows from `-inf`. -/
lemma past_of_le {e d d' : PyFloat α} (h : FloatFormat.Past e d) (hd : d ≠ .negInf)
    (hle : d ≤ d') : FloatFormat.Past e d' := by
  rcases h with hfin | hlt
  · cases d with
    | fin x => cases hfin
    | nan => exact absurd hle PyFloat.not_nan_le
    | negInf => exact absurd rfl hd
    | posInf =>
      -- nothing but another infinity is as large
      cases d' with
      | posInf => exact .inl rfl
      | fin y => exact absurd hle PyFloat.not_posInf_le_fin
      | nan => exact .inl rfl
      | negInf => exact .inl rfl
  · exact .inr (PyFloat.lt_of_lt_of_le hlt hle)

variable {s s' : BotState α} (h : Worse s s')

include h

lemma Worse.batteryCritical (hs : BatteryCritical s) : BatteryCritical s' := by
  obtain ⟨pct, hpct, hlow⟩ := hs
  rcases h.battery with heq | ⟨p, p', hp, hp', hle⟩
  · exact ⟨pct, heq.trans hpct, hlow⟩
  · obtain rfl : .fin pct = p := Option.some.inj (hpct.symm.trans hp)
    have hle' : p' ≤ pct := by simpa using hle
    exact ⟨p', hp', hle'.trans hlow⟩

lemma Worse.poseStale_age {timeout : PyFloat α} {age : PyFloat α} (hage : s.poseAge = some age)
    (hs : UnknownAge (some age) ∨ timeout < age) :
    ∃ age', s'.poseAge = some age' ∧ (UnknownAge (some age') ∨ timeout < age') := by
  rcases h.poseAge with heq | ⟨t, t', ht, ht', hpos, hle⟩
  · exact ⟨age, heq.trans hage, hs⟩
  · obtain rfl : age = t := Option.some.inj (hage.symm.trans ht)
    have hlt := hs.resolve_left (not_unknownAge hpos)
    exact ⟨t', ht', .inr (PyFloat.lt_of_lt_of_le hlt hle)⟩

lemma Worse.scanStale (cfg : GuardConfig α) (hs : ScanStale cfg s) : ScanStale cfg s' := by
  rcases h.scanAge with heq | ⟨t, t', ht, ht', hpos, hle⟩
  · rcases hs with ⟨hunknown, hseen⟩ | ⟨age, hage, hknown, hlt⟩
    · exact .inl ⟨heq ▸ hunknown, h.odomSeen hseen⟩
    · exact .inr ⟨age, heq.trans hage, hknown, hlt⟩
  · rcases hs with ⟨hunknown, -⟩ | ⟨age, hage, -, hlt⟩
    · exact absurd (ht ▸ hunknown) (not_unknownAge hpos)
    · obtain rfl : age = t := Option.some.inj (hage.symm.trans ht)
      exact .inr ⟨t', ht', not_unknownAge (PyFloat.le_trans hpos hle),
        PyFloat.lt_of_lt_of_le hlt hle⟩

lemma Worse.terrainUnhealthy (hs : TerrainUnhealthy s) : TerrainUnhealthy s' := by
  obtain ⟨v, hv, hok, habsent⟩ := hs
  rcases h.terrain with heq | hquiet | ⟨habs, v', hv', hok'⟩
  · exact ⟨v, heq.trans hv, hok, fun hv => h.odomSeen (habsent hv)⟩
  · rcases hquiet with hnone | hgood
    · rw [hnone] at hv
      cases hv
    · exact absurd (Option.some.inj (hv.symm.trans hgood)) hok
  · obtain rfl : v = "ABSENT" := Option.some.inj (hv.symm.trans habs)
    exact ⟨v', hv', hok', fun _ => h.odomSeen (habsent rfl)⟩

/-- An open gate stays open, unless the displacement left `-inf`. -/
lemma Worse.poseGateOpen (hdisp : DispUsable s s') {motionEps angularEps : Option (PyFloat α)}
    (hs : poseGateOpen s motionEps angularEps = true) :
    poseGateOpen s' motionEps angularEps = true := by
  rw [poseGateOpen_iff] at hs ⊢
  intro m a hm ha hmfin hafin
  rcases hs m a hm ha hmfin hafin with hs | hs
  · refine .inl ?_
    intro e he
    rcases h.disp with heq | ⟨d, d', hd, hd', hle⟩
    · exact hs e (heq ▸ he)
    · obtain rfl : e = d' := Option.some.inj (he.symm.trans hd')
      by_cases hneg : d = .negInf
      · obtain rfl : e = .negInf := Option.some.inj (he.symm.trans (hdisp (hneg ▸ hd)))
        exact .inl rfl
      · exact past_of_le (hs d hd) hneg hle
  · refine .inr ?_
    intro e he
    rcases h.dyaw with heq | ⟨d, d', hd, hd', hle⟩
    · exact hs e (heq ▸ he)
    · obtain rfl : e = d' := Option.some.inj (he.symm.trans hd')
      exact past_of_le (hs d hd) (abs_ne_negInf d) hle

lemma Worse.poseStale (cfg : GuardConfig α) (hdisp : DispUsable s s') (hs : PoseStale cfg s) :
    PoseStale cfg s' := by
  obtain ⟨age, hage, hstale, hgate⟩ := hs
  obtain ⟨age', hage', hstale'⟩ := h.poseStale_age hage hstale
  exact ⟨age', hage', hstale', h.poseGateOpen hdisp hgate⟩

/-- A rule that fires for a robot fires for the same robot on more hazardous inputs. -/
lemma Worse.isSome_ownRule (cfg : GuardConfig α) (hdisp : DispUsable s s') (reason : Reason)
    (hs : (ownRule cfg reason s).isSome = true) : (ownRule cfg reason s').isSome = true := by
  cases reason with
  | nearCollision => cases hs
  | batteryCritical =>
    rw [ownRule, isSome_batteryRule] at hs ⊢
    exact h.batteryCritical hs
  | blockedTimeout =>
    have hlt : cfg.blockedTimeout < s.blockedDuration := by
      by_contra hno
      simp [ownRule, blockedRule, hno] at hs
    simp [ownRule, blockedRule, lt_of_grown h.blocked hlt]
  | poseStale =>
    rw [ownRule, isSome_poseRule] at hs ⊢
    exact h.poseStale cfg hdisp hs
  | operatorStopRequest =>
    rw [ownRule, isSome_operatorRule] at hs ⊢
    exact h.operatorStop hs
  | scanStale =>
    rw [ownRule, isSome_scanRule] at hs ⊢
    exact h.scanStale cfg hs
  | terrainHealth =>
    rw [ownRule, isSome_terrainRule] at hs ⊢
    exact h.terrainUnhealthy hs

end Monotone

/-! ## Pairs of ticks -/

section Pairs

variable [IsStrictOrderedRing α] (F : FloatFormat α) (L : MathLib α) (cfg : GuardConfig α)

variable {F L cfg} in
/-- More hazardous inputs of either robot take no decision away. -/
lemma Worse.exists_evaluate {a b a' b' : BotState α} (ha : Worse a a') (hb : Worse b b')
    (hda : DispUsable a a') (hdb : DispUsable b b') {d : Decision α}
    (hd : d ∈ evaluate F L cfg a b) :
    ∃ d' ∈ evaluate F L cfg a' b', d'.bot = d.bot ∧ d'.action = d.action ∧ d'.reason = d.reason := by
  simp only [evaluate_eq, List.mem_append, List.mem_flatMap] at hd ⊢
  rcases hd with hnear | ⟨reason, hreason, hrule⟩
  · -- the positions are the same, so the proximity rule measures the same distance
    have hdist : interBotDistance F L a' b' = interBotDistance F L a b := by
      unfold interBotDistance hasPose
      rw [ha.x, ha.y, hb.x, hb.y]
    unfold nearCollisionRule at hnear ⊢
    rw [hdist]
    cases hm : interBotDistance F L a b with
    | none =>
      rw [hm] at hnear
      cases hnear
    | some m =>
      rw [hm] at hnear
      dsimp only at hnear ⊢
      split_ifs at hnear ⊢ with hclose
      · simp only [List.mem_cons, List.not_mem_nil, or_false] at hnear
        rcases hnear with rfl | rfl
        · exact ⟨_, .inl (.head _), ha.bot, rfl, rfl⟩
        · exact ⟨_, .inl (.tail _ (.head _)), hb.bot, rfl, rfl⟩
      · cases hnear
  · obtain ⟨s, hs, hfires⟩ := List.mem_filterMap.mp hrule
    have hmore : ∃ s' ∈ [a', b'], Worse s s' ∧ DispUsable s s' := by
      simp only [List.mem_cons, List.not_mem_nil, or_false] at hs
      rcases hs with rfl | rfl
      · exact ⟨a', by simp, ha, hda⟩
      · exact ⟨b', by simp, hb, hdb⟩
    obtain ⟨s', hs', hworse, husable⟩ := hmore
    have hsome : (ownRule cfg reason s').isSome = true := by
      apply hworse.isSome_ownRule cfg husable reason
      rw [hfires]
      rfl
    obtain ⟨d', hd'⟩ := Option.isSome_iff_exists.mp hsome
    obtain ⟨hbot, haction, hreason'⟩ := decides_ownRule cfg reason s d hfires
    obtain ⟨hbot', haction', hreason''⟩ := decides_ownRule cfg reason s' d' hd'
    refine ⟨d', .inr ⟨reason, hreason, List.mem_filterMap.mpr ⟨s', hs', hd'⟩⟩, ?_, ?_, ?_⟩
    · rw [hbot', hbot, hworse.bot]
    · rw [haction', haction]
    · rw [hreason'', hreason']

/-- **Evaluation is symmetric, local and monotone.**  Exchanging the robots permutes the
decisions, up to the partner a detail names and for robots with different names even as a whole;
proximity aside, the decisions are those for the one snapshot and those for the other, and those
about one name do not change with the state of the other robot; and making the inputs of either
robot more hazardous takes no decision away, unless a displacement that was `-inf` became a
number. -/
theorem evaluate_symmetric_local_monotone (hround : ∀ x, F.round (-x) = (F.round x).neg)
    (hhypot : ∀ x y : PyFloat α, L.hypot x.neg y.neg = L.hypot x y) :
    (∀ a b : BotState α,
        ((evaluate F L cfg a b).map Decision.core).Perm
            ((evaluate F L cfg b a).map Decision.core) ∧
          (a.bot ≠ b.bot → ((evaluate F L cfg a b).map Decision.content).Perm
            ((evaluate F L cfg b a).map Decision.content))) ∧
      (∀ a b : BotState α, ((evaluate F L cfg a b).filter fun d => d.reason ≠ .nearCollision).Perm
        (ownDecisions cfg a ++ ownDecisions cfg b)) ∧
      (∀ a b b' : BotState α, a.bot ≠ b.bot → a.bot ≠ b'.bot →
        (evaluate F L cfg a b).filter (fun d => d.bot = a.bot ∧ d.reason ≠ .nearCollision) =
            (evaluate F L cfg a b').filter (fun d => d.bot = a.bot ∧ d.reason ≠ .nearCollision) ∧
          (evaluate F L cfg b a).filter (fun d => d.bot = a.bot ∧ d.reason ≠ .nearCollision) =
            (evaluate F L cfg b' a).filter
              (fun d => d.bot = a.bot ∧ d.reason ≠ .nearCollision)) ∧
      ∀ a b a' b' : BotState α, Worse a a' → Worse b b' → DispUsable a a' → DispUsable b b' →
        ∀ d ∈ evaluate F L cfg a b, d.action = .estop →
          ∃ d' ∈ evaluate F L cfg a' b',
            d'.bot = d.bot ∧ d'.action = .estop ∧ d'.reason = d.reason := by
  refine ⟨?_, filter_evaluate_perm cfg F L, ?_, ?_⟩
  · intro a b
    exact ⟨map_core_evaluate_perm cfg hround hhypot a b,
      map_content_evaluate_perm cfg hround hhypot⟩
  · intro a b b' hb hb'
    constructor
    · rw [(filter_evaluate cfg F L hb).1, (filter_evaluate cfg F L hb').1]
    · rw [(filter_evaluate cfg F L hb.symm).2, (filter_evaluate cfg F L hb'.symm).2]
  · intro a b a' b' ha hb hda hdb d hd hstop
    obtain ⟨d', hd', hbot, haction, hreason⟩ := ha.exists_evaluate hb hda hdb hd
    exact ⟨d', hd', hbot, haction.trans hstop, hreason⟩

end Pairs

/-! ## A displacement that was no number -/

/-- A robot whose pose is ten seconds old, with one displacement reading. -/
def silentLocalizer (disp : PyFloat ℚ) : BotState ℚ :=
  { bot := "bot1", x := none, y := none, batteryPct := none, blockedDuration := .fin 0,
    poseAge := some (.fin 10), odomDispSincePose := some disp, odomDyawSincePose := some (.fin 0) }

/-- A partner that has reported nothing yet. -/
def silentPartner : BotState ℚ :=
  { bot := "bot2", x := none, y := none, batteryPct := none, blockedDuration := .fin 0 }

/-- A pose may be one second old, and the gate opens past a tenth. -/
def gateConfig : GuardConfig ℚ where
  distanceThreshold := .fin 1
  blockedTimeout := .fin 10
  poseFreshnessTimeout := .fin 1
  scanFreshnessTimeout := .fin 1
  poseGateMotionEpsilon := some (.fin (1 / 10))
  poseGateAngularEpsilon := some (.fin (1 / 10))

/-- **A larger displacement can close the gate.**  From `-inf` to zero the displacement grows,
and the stop for the stale pose is gone. -/
theorem larger_displacement_removes_stop :
    Worse (silentLocalizer .negInf) (silentLocalizer (.fin 0)) ∧
      (evaluate (FloatFormat.exact ℚ) MathLib.rational gateConfig (silentLocalizer .negInf)
        silentPartner).map (fun d => (d.bot, d.action, d.reason)) =
          [("bot1", .estop, .poseStale)] ∧
      (evaluate (FloatFormat.exact ℚ) MathLib.rational gateConfig (silentLocalizer (.fin 0))
        silentPartner).map (fun d => (d.bot, d.action, d.reason)) = [] := by
  refine ⟨?_, by decide +kernel, by decide +kernel⟩
  exact ⟨rfl, rfl, rfl, .inl rfl, .inl rfl, .inl rfl, .inl rfl,
    .inr ⟨.negInf, .fin 0, rfl, rfl, by simp⟩, .inl rfl, id, id, .inl rfl⟩

/-- The relations at a robot whose displacement grows from a fifth to a half. -/
theorem evaluate_symmetric_local_monotone_growing :
    ((evaluate (FloatFormat.exact ℚ) MathLib.rational gateConfig (silentLocalizer (.fin (1 / 5)))
        silentPartner).map Decision.core).Perm
      ((evaluate (FloatFormat.exact ℚ) MathLib.rational gateConfig silentPartner
        (silentLocalizer (.fin (1 / 5)))).map Decision.core) ∧
      ∃ d' ∈ evaluate (FloatFormat.exact ℚ) MathLib.rational gateConfig
          (silentLocalizer (.fin (1 / 2))) silentPartner,
        d'.bot = "bot1" ∧ d'.action = .estop ∧ d'.reason = .poseStale := by
  have hhypot : ∀ x y : PyFloat ℚ,
      MathLib.rational.hypot x.neg y.neg = MathLib.rational.hypot x y := by
    intro x y
    cases x <;> cases y <;> simp [MathLib.rational, PyFloat.neg]
  have hall := evaluate_symmetric_local_monotone (FloatFormat.exact ℚ) MathLib.rational gateConfig
    (fun _ => rfl) hhypot
  have hworse : Worse (silentLocalizer (.fin (1 / 5))) (silentLocalizer (.fin (1 / 2))) :=
    ⟨rfl, rfl, rfl, .inl rfl, .inl rfl, .inl rfl, .inl rfl,
      .inr ⟨_, _, rfl, rfl, by norm_num⟩, .inl rfl, id, id, .inl rfl⟩
  have hself : Worse silentPartner silentPartner :=
    ⟨rfl, rfl, rfl, .inl rfl, .inl rfl, .inl rfl, .inl rfl, .inl rfl, .inl rfl, id, id, .inl rfl⟩
  have honly : (evaluate (FloatFormat.exact ℚ) MathLib.rational gateConfig
      (silentLocalizer (.fin (1 / 5))) silentPartner).map (fun d => (d.bot, d.action, d.reason)) =
        [("bot1", .estop, .poseStale)] := by decide +kernel
  obtain ⟨d, hd, hfacts⟩ := List.mem_map.mp (honly ▸ List.mem_singleton_self _)
  simp only [Prod.mk.injEq] at hfacts
  obtain ⟨hbot, hestop, hreason⟩ := hfacts
  obtain ⟨d', hd', hbot', hestop', hreason'⟩ :=
    hall.2.2.2 _ _ _ _ hworse hself (by intro h; cases h) (by intro h; cases h) d hd hestop
  exact ⟨(hall.1 _ _).1, d', hd', hbot'.trans hbot, hestop', hreason'.trans hreason⟩

end MiniatureWarehouse
