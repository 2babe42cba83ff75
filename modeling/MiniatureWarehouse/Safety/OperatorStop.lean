import MiniatureWarehouse.Safety.EmergencyGuardian

/-!
# The operator stop of the guardian

A human stop passes through the tolerant decoder of its channel, the latch, the snapshots, the
seven rules and the two consumers of the decisions.  Followed through all of them: once a
payload decoded to *engage*, every tick stops both robots and says so on their stop states,
until a payload decodes to *clear*, whatever else the node receives in between.

The latch is an invariant of every callback but its own (`opEngaged_step`), and the tick reads
nothing else for its fifth rule.
-/

namespace MiniatureWarehouse

namespace EmergencyGuardian

variable {α : Type*} [Field α] [LinearOrder α] [IsStrictOrderedRing α]
  {F : FloatFormat α} {L : MathLib α} {cfg : GuardianConfig α}

/-! ## The tick -/

/-- The zero velocity goes to the robots with a stop among the decisions of the tick. -/
lemma cmdVelEmergency_mem_checkSafety (g : Guardian α) (now : PyFloat α) (env : TickEnv α)
    (bot : String) :
    .cmdVelEmergency bot ∈ (checkSafety F L cfg g now env).2 ↔
      ∃ d ∈ (tickDecisions F L cfg g now).2, d.bot = bot ∧ d.action = .estop := by
  have hno : .cmdVelEmergency bot ∉ publishStopState F (bots.map Bot.name)
      (tickDecisions F L cfg g now).2 now := by
    simp [publishStopState]
  simp only [checkSafety, List.mem_append, cmdVelEmergency_mem_carryOut]
  exact or_iff_left hno

/-- The stop state of a robot says whether it has a stop among the decisions of the tick. -/
lemma stopState_mem_checkSafety (g : Guardian α) (now : PyFloat α) (env : TickEnv α) (bot : Bot)
    (payload : PyVal α) :
    .stopState bot.name payload ∈ (checkSafety F L cfg g now env).2 ↔
      payload = stopStatePayload
        (stopRequestedFor (tickDecisions F L cfg g now).2 bot.name)
        (F.add now defaultStopStateValidWindowS) := by
  have hname : bot.name ∈ bots.map Bot.name := by
    cases bot <;> simp [bots]
  simp only [checkSafety, List.mem_append, stopState_mem_publishStopState]
  constructor
  · rintro (hcarry | ⟨-, hpayload⟩)
    · exact absurd hcarry (stopState_notMem_carryOut _ _ _ _ _ _)
    · exact hpayload
  · intro hpayload
    exact .inr ⟨hname, hpayload⟩

/-- **One verdict for two consumers.**  A tick sends a robot the zero velocity exactly when the
stop state it publishes for that robot asks for a stop. -/
theorem physical_stop_iff_stopState (g : Guardian α) (now : PyFloat α) (env : TickEnv α)
    (bot : Bot) :
    .cmdVelEmergency bot.name ∈ (checkSafety F L cfg g now env).2 ↔
      .stopState bot.name (stopStatePayload true (F.add now defaultStopStateValidWindowS)) ∈
        (checkSafety F L cfg g now env).2 := by
  rw [cmdVelEmergency_mem_checkSafety, stopState_mem_checkSafety, stopStatePayload_inj,
    ← stopRequestedFor_iff, eq_self, and_true]
  exact eq_comm

variable (F L cfg) in
/-- The two snapshots of a tick carry the names of the robots and the latch. -/
lemma exists_snapshots (g : Guardian α) (now : PyFloat α) :
    ∃ a b : BotState α, (tickDecisions F L cfg g now).2 = evaluate F L cfg.toGuardConfig a b ∧
      a.bot = "bot1" ∧ b.bot = "bot2" ∧ a.operatorStopRequested = g.opEngaged ∧
      b.operatorStopRequested = g.opEngaged :=
  ⟨_, _, rfl, rfl, rfl, rfl, rfl⟩

variable (F L cfg) in
/-- A tick under an engaged latch decides the operator stop for both robots. -/
lemma operator_decision_of_engaged {g : Guardian α} (hg : g.opEngaged = true) (now : PyFloat α)
    (bot : Bot) :
    ∃ d ∈ (tickDecisions F L cfg g now).2,
      d.bot = bot.name ∧ d.action = .estop ∧ d.reason = .operatorStopRequest := by
  obtain ⟨a, b, hdecisions, ha, hb, hopa, hopb⟩ := exists_snapshots F L cfg g now
  obtain ⟨s, hs, hname, hop⟩ : ∃ s ∈ [a, b], s.bot = bot.name ∧ s.operatorStopRequested = true := by
    cases bot with
    | bot1 => exact ⟨a, by simp, ha, hopa.trans hg⟩
    | bot2 => exact ⟨b, by simp, hb, hopb.trans hg⟩
  have hrule : operatorRule s = some ⟨s.bot, .estop, .operatorStopRequest, none⟩ := if_pos hop
  have hmem : (⟨s.bot, .estop, .operatorStopRequest, none⟩ : Decision α) ∈
      [a, b].filterMap operatorRule := List.mem_filterMap.mpr ⟨s, hs, hrule⟩
  refine ⟨⟨s.bot, .estop, .operatorStopRequest, none⟩, ?_, hname, rfl, rfl⟩
  rw [hdecisions, evaluate]
  simp only [List.mem_append, hmem, or_true, true_or]

/-! ## The latch -/

variable [FloorRing α] {scan : JsonScan α}
  {parseTerrainCoverage : String → Option (TerrainCoverage α)}

omit [IsStrictOrderedRing α] [Field α] [LinearOrder α] [FloorRing α] in
/-- The latch keeps its value on a payload that decodes to neither action. -/
lemma feed_ignored {data : String}
    (hengage : parseOperatorStopAction scan data ≠ .ok (some .engage))
    (hclear : parseOperatorStopAction scan data ≠ .ok (some .clear)) (engaged : Bool) :
    OperatorStopLatch.feed scan engaged data = (engaged, parseOperatorStopAction scan data) := by
  unfold OperatorStopLatch.feed
  cases hparse : parseOperatorStopAction scan data with
  | error e => rfl
  | ok action =>
    cases action with
    | none => rfl
    | some action =>
      cases action with
      | engage => exact absurd hparse hengage
      | clear => exact absurd hparse hclear

/-- A payload that decodes to neither action leaves the whole node unchanged. -/
lemma onOperatorStop_ignored {data : String}
    (hengage : parseOperatorStopAction scan data ≠ .ok (some .engage))
    (hclear : parseOperatorStopAction scan data ≠ .ok (some .clear)) (g : Guardian α) :
    ((node F L cfg scan parseTerrainCoverage).step g (.onOperatorStop data)).1 = g := by
  have hfeed := feed_ignored hengage hclear g.opEngaged
  simp only [node]
  rw [hfeed]

/-- A payload that decodes to engage engages the latch, from any state. -/
lemma onOperatorStop_engage {data : String}
    (hengage : parseOperatorStopAction scan data = .ok (some .engage)) (g : Guardian α) :
    ((node F L cfg scan parseTerrainCoverage).step g (.onOperatorStop data)).1.opEngaged =
      true := by
  simp [node, OperatorStopLatch.feed, hengage]

/-- An input that is not a clear. -/
def NotClear (scan : JsonScan α) (e : Event α) : Prop :=
  ∀ data, e = .onOperatorStop data → parseOperatorStopAction scan data ≠ .ok (some .clear)

/-- **Step.**  Only a clear releases an engaged latch. -/
lemma opEngaged_step (g : Guardian α) (e : Event α) (he : NotClear scan e)
    (hg : g.opEngaged = true) :
    ((node F L cfg scan parseTerrainCoverage).step g e).1.opEngaged = true := by
  cases e with
  | onPose bot x y now => exact hg
  | onOdom bot x y qx qy qz qw now => exact hg
  | onScan bot now => exact hg
  | onTerrainCoverage bot data now => exact hg
  | onBattery bot percentage =>
    simp only [node]
    cases marshalBattery F (g.battery bot) percentage cfg.batteryScale <;> exact hg
  | onOperatorStop data =>
    by_cases hengage : parseOperatorStopAction scan data = .ok (some .engage)
    · exact onOperatorStop_engage hengage g
    · rw [onOperatorStop_ignored hengage (he data rfl) g]
      exact hg
  | checkSafety now env => exact hg

/-- **Run.**  An engaged latch stays engaged over every run without a clear. -/
lemma opEngaged_run {g : Guardian α} (hg : g.opEngaged = true) {es : List (Event α)}
    (hes : ∀ e ∈ es, NotClear scan e) :
    ((node F L cfg scan parseTerrainCoverage).run g es).opEngaged = true :=
  Machine.run_invariant (I := fun g => g.opEngaged = true)
    (fun g e he hg => opEngaged_step g e he hg)
    ((node F L cfg scan parseTerrainCoverage).allSteps_of_forall g hes) hg

variable (F L cfg scan parseTerrainCoverage) in
/-- **A human stop holds until it is cleared.**  In every run, from any state, a tick after a
payload that decoded to engage, with none since that decoded to clear, decides the operator stop
for both robots, sends both the zero velocity, and publishes stop states that ask for a stop and
nothing else.  A payload that decodes to neither action leaves the node unchanged, and no tick
raises. -/
theorem engage_holds_until_clear :
    (∀ (g : Guardian α) (before after : List (Event α)) (data : String) (now : PyFloat α)
        (env : TickEnv α),
      parseOperatorStopAction scan data = .ok (some .engage) →
      (∀ e ∈ after, NotClear scan e) →
      ∀ bot : Bot,
        let M := node F L cfg scan parseTerrainCoverage
        let reached := M.run g (before ++ .onOperatorStop data :: after)
        (∃ d ∈ (tickDecisions F L cfg reached now).2,
          d.bot = bot.name ∧ d.action = .estop ∧ d.reason = .operatorStopRequest) ∧
        .cmdVelEmergency bot.name ∈ (M.step reached (.checkSafety now env)).2.1 ∧
        ∀ payload, .stopState bot.name payload ∈ (M.step reached (.checkSafety now env)).2.1 ↔
          payload = stopStatePayload true (F.add now defaultStopStateValidWindowS)) ∧
    (∀ (g : Guardian α) (data : String),
      parseOperatorStopAction scan data ≠ .ok (some .engage) →
      parseOperatorStopAction scan data ≠ .ok (some .clear) →
      ((node F L cfg scan parseTerrainCoverage).step g (.onOperatorStop data)).1 = g) ∧
    ∀ (g : Guardian α) (now : PyFloat α) (env : TickEnv α),
      ((node F L cfg scan parseTerrainCoverage).step g (.checkSafety now env)).2.2 = .ok () := by
  refine ⟨?_, fun g data => (onOperatorStop_ignored · · g), fun _ _ _ => rfl⟩
  intro g before after data now env hengage hafter bot M reached
  have hreached : reached.opEngaged = true := by
    have hsplit : reached =
        M.run (M.step (M.run g before) (.onOperatorStop data)).1 after := by
      rw [← Machine.run_cons, ← Machine.run_append]
    rw [hsplit]
    exact opEngaged_run (onOperatorStop_engage hengage _) hafter
  have hdecision := operator_decision_of_engaged F L cfg hreached now bot
  have hestop : ∃ d ∈ (tickDecisions F L cfg reached now).2, d.bot = bot.name ∧
      d.action = .estop := by
    obtain ⟨d, hd, hbot, haction, -⟩ := hdecision
    exact ⟨d, hd, hbot, haction⟩
  refine ⟨hdecision, (cmdVelEmergency_mem_checkSafety reached now env bot.name).mpr hestop, ?_⟩
  intro payload
  have hflag := (stopRequestedFor_iff _ _).mpr hestop
  rw [← hflag]
  exact stopState_mem_checkSafety reached now env bot payload

/-! ### A stop that survives garbage -/

/-- The text of an engage. -/
def engagePayload : String := "\x7b\"action\": \"engage\"\x7d"

/-- A scanner that knows this one text. -/
def engageScan : JsonScan ℚ := fun s =>
  if s = engagePayload then .ok (.dict [("action", .str "engage")]) else .error .valueError

/-- A guardian without terrain observation. -/
def plainGuardian : GuardianConfig ℚ where
  toGuardConfig := unitThresholds
  odomFreshnessTimeout := .fin 1
  batteryScale := .percent
  terrainLimits := none

/-- No cancel service is up and every event is stamped the same. -/
def quietEnv : TickEnv ℚ := ⟨fun _ _ => false, fun _ => (.fin 0, "20260101000000")⟩

/-- An engage followed by a scan and an unreadable payload still stops the second robot. -/
theorem engage_holds_through_garbage :
    .cmdVelEmergency "bot2" ∈
      ((node (.exact ℚ) .rational plainGuardian engageScan fun _ => none).step
        ((node (.exact ℚ) .rational plainGuardian engageScan fun _ => none).run
          (Guardian.init (.exact ℚ) plainGuardian)
          ([.onScan .bot1 (.fin 0)] ++ .onOperatorStop engagePayload ::
            [.onScan .bot1 (.fin 1), .onOperatorStop "clear"]))
        (.checkSafety (.fin 2) quietEnv)).2.1 := by
  refine ((engage_holds_until_clear (.exact ℚ) .rational plainGuardian engageScan
    fun _ => none).1 _ _ _ engagePayload (.fin 2) quietEnv ?_ ?_ .bot2).2.1
  · rfl
  · intro e he data hdata
    -- the only operator payload after the engage does not decode
    rcases List.mem_cons.mp he with rfl | he
    · cases hdata
    · rcases List.mem_singleton.mp he with rfl
      cases hdata
      decide

end EmergencyGuardian

end MiniatureWarehouse
