import MiniatureWarehouse.M1Driver.StopFeed

/-!
# The operator stop from the channel of the human to the wheels

The guardian, the stop states in flight and the driver as one system, in which every order of
steps is possible: a callback of the guardian, the loss of any message in flight, the delivery of
the oldest one, and any callback of the driver but its stop-state callback, which only a delivery
calls.  Once a payload on the channel of the operator stop decoded to *engage*, the wheels can
only be moved by a permission that was on its way already, and only inside its window.

`Coupled` relates a state to the history that led to it: the guardian and the core are those of
two separate runs, and what was delivered or is in flight is, in order, part of what the guardian
published.  The rest follows from where in that order the engage stands.
-/

namespace MiniatureWarehouse

namespace StopFeed

open EmergencyGuardian (Guardian GuardianConfig Bot NotClear defaultStopStateValidWindowS)

open M1Driver (Core NodeConfig BackendCall)

/-- The two nodes of one robot, with what they run on. -/
structure PathSetup (α : Type*) [Field α] [LinearOrder α] [IsStrictOrderedRing α] where
  F : FloatFormat α
  L : MathLib α
  T : Json.FloatText α
  scan : JsonScan α
  parseTerrainCoverage : String → Option (TerrainCoverage α)
  guardian : GuardianConfig α
  driver : NodeConfig α
  bot : Bot

/-- The guardian, the stop states in flight to the driver, and the core of that driver. -/
structure StopPath (α : Type*) [Field α] [LinearOrder α] where
  guardian : Guardian α
  inFlight : List (StopMessage α)
  core : Core α

/-- A step of the system. -/
inductive PathEvent (α : Type*)
  /-- A callback of the guardian; what it publishes for the robot is in flight then. -/
  | guardian (e : EmergencyGuardian.Event α)
  /-- A message in flight is lost. -/
  | lose (i : ℕ)
  /-- The oldest message in flight reaches the driver, at a reading of its clock. -/
  | deliver (received : PyFloat α)
  /-- A callback of another channel of the driver. -/
  | drive (e : M1Driver.Event α) (h : ¬ e.IsStopState)

/-- The callback of the guardian a step is. -/
def PathEvent.guardian? {α : Type*} : PathEvent α → Option (EmergencyGuardian.Event α)
  | .guardian e => some e
  | _ => none

/-- The callbacks of the guardian in a run, in order. -/
def guardianEvents {α : Type*} (es : List (PathEvent α)) : List (EmergencyGuardian.Event α) :=
  es.filterMap PathEvent.guardian?

lemma guardianEvents_concat {α : Type*} (past : List (PathEvent α)) (e : PathEvent α) :
    guardianEvents (past ++ [e]) = guardianEvents past ++ e.guardian?.toList := by
  unfold guardianEvents
  rw [List.filterMap_append]
  cases h : e.guardian? <;> simp [h]

/-- What a step hands on to the driver. -/
def StopPath.feed {α : Type*} [Field α] [LinearOrder α] (s : StopPath α) :
    PathEvent α → Option (FeedInput α)
  | .deliver received => s.inFlight.head?.map fun m => .deliver m received
  | .drive e h => some (.other e h)
  | _ => none

section Published

variable {α : Type*} [Field α] [LinearOrder α] [IsStrictOrderedRing α] [FloorRing α]
  {F : FloatFormat α} {L : MathLib α} {cfg : GuardianConfig α} {bot : Bot} {scan : JsonScan α}
  {parseTerrainCoverage : String → Option (TerrainCoverage α)}

lemma published_append (g : Guardian α) (es fs : List (EmergencyGuardian.Event α)) :
    published F L cfg bot scan parseTerrainCoverage g (es ++ fs) =
      published F L cfg bot scan parseTerrainCoverage g es ++
        published F L cfg bot scan parseTerrainCoverage
          ((EmergencyGuardian.node F L cfg scan parseTerrainCoverage).run g es) fs := by
  induction es generalizing g with
  | nil => rfl
  | cons e es ih =>
    simp only [List.cons_append, published, ih, Machine.run_cons, List.append_assoc]

lemma published_concat (g : Guardian α) (es : List (EmergencyGuardian.Event α))
    (e : EmergencyGuardian.Event α) :
    published F L cfg bot scan parseTerrainCoverage g (es ++ [e]) =
      published F L cfg bot scan parseTerrainCoverage g es ++ messagesOf F L cfg bot
        ((EmergencyGuardian.node F L cfg scan parseTerrainCoverage).run g es) e := by
  rw [published_append]
  simp only [published, List.append_nil]

/-- Under an engaged latch every stop state asks for a stop, until a clear. -/
lemma stopRequestedFor_of_published {g : Guardian α} (hg : g.opEngaged = true)
    {es : List (EmergencyGuardian.Event α)} (hes : ∀ e ∈ es, NotClear scan e)
    {m : StopMessage α} (hm : m ∈ published F L cfg bot scan parseTerrainCoverage g es) :
    stopRequestedFor m.decisions bot.name = true := by
  induction es generalizing g with
  | nil => cases hm
  | cons e es ih =>
    rcases List.mem_append.mp hm with hnow | hlater
    · cases e with
      | checkSafety now env =>
        rw [messagesOf_checkSafety, List.mem_singleton] at hnow
        obtain ⟨d, hd, hbot, haction, -⟩ :=
          EmergencyGuardian.operator_decision_of_engaged F L cfg hg now bot
        rw [hnow, stopRequestedFor_iff]
        exact ⟨d, hd, hbot, haction⟩
      | _ => cases hnow
    · exact ih (EmergencyGuardian.opEngaged_step g e (hes e (by simp)) hg)
        (fun e' he' => hes e' (List.mem_cons_of_mem e he')) hlater

end Published

section Path

variable {α : Type*} [Field α] [LinearOrder α] [IsStrictOrderedRing α] [FloorRing α]
  (P : PathSetup α)

namespace PathSetup

/-- The guardian of the setup. -/
def guardianNode : Machine (Guardian α) (EmergencyGuardian.Event α)
    (List (EmergencyGuardian.Effect α) × Except PyErr Unit) :=
  EmergencyGuardian.node P.F P.L P.guardian P.scan P.parseTerrainCoverage

/-- The driver of the setup. -/
def driverNode : Machine (Core α) (M1Driver.Event α) (Except PyErr (List (BackendCall α))) :=
  M1Driver.node P.F P.L (Json.scan P.T) P.driver

/-- The system as a machine; a step puts out the backend calls of the driver, or what its
callback raised. -/
def system : Machine (StopPath α) (PathEvent α) (Except PyErr (List (BackendCall α))) where
  step s
    | .guardian e =>
      ({ s with
          guardian := (P.guardianNode.step s.guardian e).1
          inFlight := s.inFlight ++ messagesOf P.F P.L P.guardian P.bot s.guardian e }, .ok [])
    | .lose i => ({ s with inFlight := s.inFlight.eraseIdx i }, .ok [])
    | .deliver received =>
      match s.inFlight with
      | [] => (s, .ok [])
      | m :: later =>
        let (core, calls) := P.driverNode.step s.core (.stopState (m.text P.T) received)
        ({ s with inFlight := later, core := core }, calls)
    | .drive e _ =>
      let (core, calls) := P.driverNode.step s.core e
      ({ s with core := core }, calls)

/-- Both nodes as they start, and nothing in flight. -/
def start : StopPath α := ⟨Guardian.init P.F P.guardian, [], .init⟩

/-- The inputs of the driver in a run from the start. -/
def driverInputs (es : List (PathEvent α)) : List (FeedInput α) :=
  P.system.feeds StopPath.feed P.start es

/-- The stop states the robot was sent in a run from the start. -/
def sent (es : List (PathEvent α)) : List (StopMessage α) :=
  published P.F P.L P.guardian P.bot P.scan P.parseTerrainCoverage
    (Guardian.init P.F P.guardian) (guardianEvents es)

/-- The stop states delivered in a run from the start, with their times of receipt. -/
def delivered (es : List (PathEvent α)) : List (StopMessage α × PyFloat α) :=
  deliveries (P.driverInputs es)

/-- How a state hangs together with the steps that led to it. -/
structure Coupled (past : List (PathEvent α)) (s : StopPath α) : Prop where
  guardian : s.guardian = P.guardianNode.run (Guardian.init P.F P.guardian) (guardianEvents past)
  core : s.core = coreAfter P.F P.L P.driver P.T (P.driverInputs past)
  inOrder : ((P.delivered past).map Prod.fst ++ s.inFlight).Sublist (P.sent past)

lemma driverInputs_concat (past : List (PathEvent α)) (e : PathEvent α) :
    P.driverInputs (past ++ [e]) =
      P.driverInputs past ++ ((P.system.run P.start past).feed e).toList := by
  unfold driverInputs
  rw [Machine.feeds_append]
  simp [Machine.feeds]

variable {P}

lemma system_step_drive (s : StopPath α) (e : M1Driver.Event α) (he : ¬ e.IsStopState) :
    (P.system.step s (.drive e he)).2 = (P.driverNode.step s.core e).2 := rfl

/-- A callback of the guardian sends what it publishes. -/
lemma Coupled.guardianStep {past : List (PathEvent α)} {s : StopPath α} (h : P.Coupled past s)
    (e : EmergencyGuardian.Event α)
    (hins : P.driverInputs (past ++ [.guardian e]) = P.driverInputs past) :
    P.Coupled (past ++ [.guardian e]) (P.system.step s (.guardian e)).1 := by
  have hevents : guardianEvents (past ++ [.guardian e]) = guardianEvents past ++ [e] :=
    guardianEvents_concat past (.guardian e)
  refine ⟨?_, ?_, ?_⟩
  · rw [hevents, Machine.run_concat, ← h.guardian]
    rfl
  · rw [hins]
    exact h.core
  · have hgrows := h.inOrder.append_right
      (messagesOf P.F P.L P.guardian P.bot s.guardian e)
    unfold delivered sent at hgrows ⊢
    rw [hins, hevents, published_concat]
    rw [List.append_assoc, h.guardian] at hgrows
    simp only [system, h.guardian]
    exact hgrows

/-- Any other step moves messages out of the channel, and the driver along what it is handed. -/
lemma Coupled.driverStep {past : List (PathEvent α)} {s s' : StopPath α} (h : P.Coupled past s)
    {e : PathEvent α} (he : e.guardian? = none) {ins : List (FeedInput α)}
    (hins : P.driverInputs (past ++ [e]) = P.driverInputs past ++ ins)
    (hguardian : s'.guardian = s.guardian)
    (hcore : s'.core = P.driverNode.run s.core (ins.map (FeedInput.toEvent P.T)))
    (horder : ((deliveries ins).map Prod.fst ++ s'.inFlight).Sublist s.inFlight) :
    P.Coupled (past ++ [e]) s' := by
  have hevents : guardianEvents (past ++ [e]) = guardianEvents past := by
    rw [guardianEvents_concat, he, Option.toList_none, List.append_nil]
  refine ⟨?_, ?_, ?_⟩
  · rw [hguardian, hevents]
    exact h.guardian
  · rw [hcore, h.core, hins]
    unfold coreAfter driverNode
    rw [List.map_append, Machine.run_append]
  · have hmoved := (horder.append_left ((P.delivered past).map Prod.fst)).trans h.inOrder
    unfold delivered sent deliveries at *
    rw [hevents, hins, List.filterMap_append, List.map_append, List.append_assoc]
    exact hmoved

/-- **Step.**  Whatever the system does next keeps the state coupled to its history. -/
lemma Coupled.step {past : List (PathEvent α)}
    (h : P.Coupled past (P.system.run P.start past)) (e : PathEvent α) :
    P.Coupled (past ++ [e]) (P.system.step (P.system.run P.start past) e).1 := by
  have hins := P.driverInputs_concat past e
  generalize P.system.run P.start past = s at h hins
  cases e with
  | guardian e => exact h.guardianStep e (by simpa [StopPath.feed] using hins)
  | lose i =>
    refine h.driverStep rfl hins rfl rfl ?_
    exact List.eraseIdx_sublist s.inFlight i
  | deliver received =>
    cases hflight : s.inFlight with
    | nil =>
      have hstep : P.system.step s (.deliver received) = (s, .ok []) := by
        simp [system, hflight]
      rw [hstep]
      refine h.driverStep rfl hins rfl ?_ ?_ <;> simp [StopPath.feed, hflight, deliveries]
    | cons m later =>
      have hfeed : s.feed (.deliver received) = some (.deliver m received) := by
        simp [StopPath.feed, hflight]
      rw [hfeed] at hins
      refine h.driverStep rfl hins ?_ ?_ ?_
      · simp [system, hflight]
      · simp [system, hflight, FeedInput.toEvent]
      · simp [system, hflight, deliveries, FeedInput.delivery?]
  | drive e he =>
    refine h.driverStep rfl hins rfl rfl ?_
    exact List.Sublist.refl s.inFlight

/-- **Run.**  Every run from the start leaves its last state coupled to it. -/
lemma coupled_run (es : List (PathEvent α)) : P.Coupled es (P.system.run P.start es) :=
  Machine.run_history (I := P.Coupled) ⟨rfl, rfl, List.Sublist.refl _⟩
    (fun _ e h => h.step e) es

/-! ## The engage on its way to the wheels -/

omit [FloorRing α] in
/-- An overlay that lets the driver move shows a delivery that asks for no stop, inside its
window. -/
lemma exists_of_unblocked (hF : ClockFormat P.F) (hmax : P.F.Rep P.driver.stopStateMaxValidityS)
    (hen : P.driver.stopOverlayEnabled = true) {c : Core α}
    {ds : List (StopMessage α × PyFloat α)} (hds : Ordered P.F P.bot ds)
    (hc : Mirrors P.F P.driver P.bot c ds.getLast?) {t : α}
    (hopen : c.overlayBlocks P.driver.toConfig (.fin t) = false) :
    ∃ d, ds.getLast? = some d ∧ stopRequestedFor d.1.decisions P.bot.name = false ∧
      .fin t ≤ P.F.add d.1.now defaultStopStateValidWindowS := by
  unfold Core.overlayBlocks at hopen
  rw [hen, hc.permit] at hopen
  cases hlast : ds.getLast? with
  | none => simp [hlast] at hopen
  | some d =>
    have hd : WellFormed P.F P.bot d := hds.wellFormed d (List.mem_of_getLast? hlast)
    obtain ⟨v, hv, -⟩ := add_window hF hd.built
    obtain ⟨y, -, hy⟩ := add_ceiling hF hmax hd.received
    obtain ⟨w, hw, -⟩ := deadline_pos hF hmax hd
    cases hflag : stopRequestedFor d.1.decisions P.bot.name with
    | true => simp [hlast, hflag] at hopen
    | false =>
      have hnot : ¬ deadline P.F P.driver d < .fin t := by
        simpa [hlast, hflag] using hopen
      rw [hw] at hnot
      have hle : .fin t ≤ deadline P.F P.driver d := by
        rw [hw]
        exact PyFloat.fin_le_fin.mpr (not_lt.mp (fun hlt => hnot (PyFloat.fin_lt_fin.mpr hlt)))
      refine ⟨d, rfl, hflag, ?_⟩
      exact ((PyFloat.le_pyMin_iff (by rw [hv]; simp) (PyFloat.ne_nan_of_le hy).2).mp hle).1

/-- What is sent after an engage without a clear asks for a stop. -/
lemma stopRequestedFor_of_sent_after (before : List (PathEvent α))
    {after : List (PathEvent α)} {data : String}
    (hengage : parseOperatorStopAction P.scan data = .ok (some .engage))
    (hafter : ∀ e ∈ guardianEvents after, NotClear P.scan e) :
    ∃ late, P.sent (before ++ .guardian (.onOperatorStop data) :: after) = P.sent before ++ late ∧
      ∀ m ∈ late, stopRequestedFor m.decisions P.bot.name = true := by
  have hevents : guardianEvents (before ++ .guardian (.onOperatorStop data) :: after) =
      guardianEvents before ++ .onOperatorStop data :: guardianEvents after := by
    simp [guardianEvents, PathEvent.guardian?]
  unfold sent
  rw [hevents, published_append]
  refine ⟨_, rfl, fun m hm => ?_⟩
  rcases List.mem_append.mp hm with hnow | hlater
  · cases hnow
  · exact stopRequestedFor_of_published
      (EmergencyGuardian.onOperatorStop_engage hengage _) hafter hlater

end PathSetup

end Path

/-! A permission already in flight lets the wheels turn until its window ends. -/

/-- A guardian that never observes terrain and a driver with the overlay on. -/
def plainSetup : PathSetup ℚ where
  F := .exact ℚ
  L := .rational
  T := .rational
  scan := EmergencyGuardian.engageScan
  parseTerrainCoverage := fun _ => none
  guardian := EmergencyGuardian.plainGuardian
  driver := M1Driver.overlayConfig
  bot := .bot1

/-- A tick, the engage, and the delivery of what the tick had sent. -/
def overtakenEngage : List (PathEvent ℚ) :=
  [.guardian firstTick, .guardian (.onOperatorStop EmergencyGuardian.engagePayload),
    .deliver (.fin (3 / 4))]

/-- What reaches the driver is the message of the tick. -/
lemma driverInputs_overtakenEngage :
    plainSetup.driverInputs overtakenEngage = [.deliver firstMessage (.fin (3 / 4))] := by
  have htick : messagesOf plainSetup.F plainSetup.L plainSetup.guardian plainSetup.bot
      plainSetup.start.guardian firstTick = [firstMessage] :=
    messagesOf_checkSafety _ _ _ _ _ _ _
  have hflight : (plainSetup.system.run plainSetup.start [.guardian firstTick,
      .guardian (.onOperatorStop EmergencyGuardian.engagePayload)]).inFlight = [firstMessage] :=
    congrArg (fun ms => [] ++ ms ++ []) htick
  change Option.toList (Option.map (fun m => FeedInput.deliver m (.fin (3 / 4)))
    (List.head? (plainSetup.system.run plainSetup.start [.guardian firstTick,
      .guardian (.onOperatorStop EmergencyGuardian.engagePayload)]).inFlight)) ++ [] = _
  rw [hflight]
  rfl

/-- The core has taken the permission over. -/
lemma core_overtakenEngage :
    (plainSetup.system.run plainSetup.start overtakenEngage).core =
      Core.init.onStopState M1Driver.overlayConfig.toConfig false (.fin 1) := by
  have hd : WellFormed plainSetup.F .bot1 (firstMessage, .fin (3 / 4)) :=
    ⟨rfl, ⟨1 / 2, rfl, by norm_num, rfl⟩, ⟨3 / 4, rfl, by norm_num, rfl⟩⟩
  have hvalue : (stopRequestedFor firstMessage.decisions Bot.bot1.name,
      deadline plainSetup.F plainSetup.driver (firstMessage, .fin (3 / 4))) = (false, .fin 1) := by
    decide +kernel
  have hdecoded : M1Driver.decoded plainSetup.F (Json.scan plainSetup.T) plainSetup.driver
      (firstMessage.text plainSetup.T) (.fin (3 / 4)) = .ok (false, .fin 1) :=
    (decoded_text plainSetup.driver .exact plainSetup.T hd).trans (congrArg Except.ok hvalue)
  rw [(plainSetup.coupled_run overtakenEngage).core, driverInputs_overtakenEngage]
  simp only [coreAfter, List.map_cons, List.map_nil, FeedInput.toEvent, Machine.run_cons,
    Machine.run_nil, M1Driver.node]
  rw [hdecoded]
  rfl

end StopFeed

end MiniatureWarehouse
