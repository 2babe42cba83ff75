import MiniatureWarehouse.LlmBridge.Scheduler
import MiniatureWarehouse.Mcp.GateBookkeeping

/-!
# The task view of the commander

The scheduler keeps a table of where it has sent every robot, and it never looks at the gate to
fill it: it derives from the status of a call which effect the call had.  The gate keeps the same
table as its reservations.

The two agree because every answer determines the effect: a refused call changes neither, an
accepted one registers the place the item names, if it names one, and a stop that is accepted
found a task to clear.  A stop that is not found nothing, and then there is no reservation either
(`Bookkeeping.reserved`).  A call without an answer counts as not accepted; this is wrong only for
one whose row cannot be appended to the audit log, since the gate reserves before the row is written
(`current_tasks_miss_unaudited_call`).
-/

namespace MiniatureWarehouse

/-- The destination of the active reservation of a robot. -/
def PolicyGate.activeReservation {α : Type} (g : PolicyGate α) (robot : String) : Option String :=
  if g.activeTasks.contains robot then g.dropoffs.get? robot else none

/-- Every reservation belongs to an active task. -/
lemma PolicyGate.Bookkeeping.activeReservation {α : Type} {g : PolicyGate α}
    (h : PolicyGate.Bookkeeping g) (robot : String) :
    g.activeReservation robot = g.dropoffs.get? robot := by
  unfold PolicyGate.activeReservation
  split_ifs with hactive
  · rfl
  · cases hget : g.dropoffs.get? robot with
    | none => rfl
    | some d => exact absurd ((Dict.contains_iff _ _).mpr (h.reserved robot d hget)) hactive

namespace LlmBridge

/-! ## The tools of the commander -/

/-- What one call meets: the outcome of its generation check, the state file and the clock, and
whether its row can be appended to the audit log. -/
structure CallEnv (α : Type) where
  gen : Except PyErr GenCheckResult
  reading : Reading α
  audited : Bool

/-- The tools during a cycle: the gate, and how many calls have been made. -/
structure GateTools (α : Type) where
  gate : PolicyGate α
  made : ℕ

/-- The status of an answer, once its row is appended; a `TypeError` is an answer, any other
exception escapes. -/
def statusOf {α : Type} (audited : Bool) : ToolResult α → Except PyErr ToolStatus
  | .ok _ | .read => if audited then .ok .ok else .error .osError
  | .rejected _ => if audited then .ok .rejected else .error .osError
  | .error .typeError => if audited then .ok .error else .error .osError
  | .error e => .error e

/-- The commander, the one client of its gate. -/
structure Commander (α : Type) where
  scheduler : BridgeScheduler α
  gate : PolicyGate α

/-- What happens to a commander: a cycle, with what it and each of its calls meet, a change of the
emergency level of a robot, or a proposal of the negotiation. -/
inductive CommanderEvent (α : Type)
  | cycle (input : CycleInput α) (env : ℕ → CallEnv α)
  | setEmergency (robot : String) (active : Bool)
  | propose (proposal : Option (Proposal α))

/-- A commander before its first cycle. -/
def Commander.init {α : Type} (pendingTasks : List PendingTask) (emergency : Finset String) :
    Commander α :=
  ⟨.init pendingTasks, .init emergency⟩

section Run

variable {α : Type} [Field α] [LinearOrder α] [IsStrictOrderedRing α] (F : FloatFormat α)
  (L : MathLib α) (W : Wiring α) (iso : IsoTimestamp α) (fresh : FreshnessThresholds α)

/-- `DispatchToolExecutor` over the tools of the server. -/
def executeTool (env : ℕ → CallEnv α) : ToolExecutor α (GateTools α) := fun _ tools call =>
  let e := env tools.made
  let (gate, result) := callTool F iso fresh tools.gate e.gen e.reading call
  (⟨gate, tools.made + 1⟩, statusOf e.audited result)

/-- One cycle of the commander, whether it returns or raises. -/
def Commander.cycle (c : Commander α) (input : CycleInput α) (env : ℕ → CallEnv α) :
    Commander α :=
  let r := c.scheduler.runCycle F L W (executeTool F iso fresh env) ⟨c.gate, 0⟩ input
  ⟨r.scheduler, r.tools.gate⟩

/-- The cycles of the commander as a machine. -/
def commander : Machine (Commander α) (CommanderEvent α) Unit where
  step c
    | .cycle input env => (c.cycle F L W iso fresh input env, ())
    | .setEmergency robot active => ({ c with gate := c.gate.setEmergency robot active }, ())
    | .propose proposal =>
      ({ c with scheduler := c.scheduler.setNegotiationProposal proposal }, ())

end Run

/-! ## What an item does to the two tables -/

section Item

variable {α : Type}

/-- Where the robot of an item is headed after it was accepted. -/
def taskAfter (item : CommandItem α) (task : Option String) : Option String :=
  match item.action with
  | .navigate => item.destination.or task
  | .wait => task
  | .stop => none
  | .yield => item.retreatTo.or task
  | .charge => some chargingTask

/-- An accepted item sets the task of its robot. -/
lemma get?_trackCurrentTask (s : BridgeScheduler α) (item : CommandItem α) (bot : String) :
    (s.trackCurrentTask item .ok).currentTasks.get? bot =
      if bot = item.bot then taskAfter item (s.currentTasks.get? bot)
      else s.currentTasks.get? bot := by
  have hkeep : s.currentTasks.get? bot =
      if bot = item.bot then s.currentTasks.get? bot else s.currentTasks.get? bot := by
    split_ifs <;> rfl
  unfold BridgeScheduler.trackCurrentTask taskAfter
  rw [if_neg (not_not.mpr rfl)]
  cases item.action with
  | navigate =>
    cases item.destination with
    | none => exact hkeep
    | some destination => exact s.currentTasks.get?_set item.bot destination bot
  | wait => exact hkeep
  | stop => exact s.currentTasks.get?_erase item.bot bot
  | yield =>
    cases item.retreatTo with
    | none => exact hkeep
    | some retreat => exact s.currentTasks.get?_set item.bot retreat bot
  | charge => exact s.currentTasks.get?_set item.bot chargingTask bot

/-- What is not accepted changes nothing. -/
lemma trackCurrentTask_of_ne (s : BridgeScheduler α) (item : CommandItem α) {status : ToolStatus}
    (h : status ≠ .ok) : s.trackCurrentTask item status = s := by
  unfold BridgeScheduler.trackCurrentTask
  rw [if_pos h]

/-- The other bookkeeping of an answer leaves the view alone. -/
lemma currentTasks_record (s : BridgeScheduler α) (item : CommandItem α) (status : ToolStatus) :
    ((s.consumePendingTask item status).record item status).currentTasks = s.currentTasks := by
  show (s.consumePendingTask item status).currentTasks = s.currentTasks
  unfold BridgeScheduler.consumePendingTask
  split <;> rfl

/-- The cancel of a stop names its robot. -/
lemma currentRobot?_current (bot : String) : currentRobot? ("current:" ++ bot) = some bot := by
  have hpre : "current:".toList.isPrefixOf ("current:" ++ bot).toList = true := by
    rw [String.toList_append, List.isPrefixOf_iff_prefix]
    exact List.prefix_append _ _
  have hdrop : ("current:" ++ bot).toList.drop "current:".length = bot.toList := by
    rw [String.toList_append]
    exact List.drop_left
  unfold currentRobot?
  rw [if_pos hpre, hdrop, String.ofList_toList]

variable [Field α] [LinearOrder α] [IsStrictOrderedRing α] {F : FloatFormat α}
  {iso : IsoTimestamp α} {fresh : FreshnessThresholds α}

/-- The reservation of the robot after an answer: as the item says when it was accepted, and
otherwise the gate is as it was. -/
structure ItemEffect (g g' : PolicyGate α) (item : CommandItem α) (result : ToolResult α) :
    Prop where
  answered : result ≠ .read
  accepted : ∀ payload, result = .ok payload → PolicyGate.Bookkeeping g' ∧ ∀ bot,
    g'.dropoffs.get? bot =
      if bot = item.bot then taskAfter item (g.dropoffs.get? bot) else g.dropoffs.get? bot
  refused : (∀ payload, result ≠ .ok payload) → g' = g

omit [Field α] [LinearOrder α] [IsStrictOrderedRing α] in
/-- A registration for the robot of an item, with the place the item names. -/
lemma itemEffect_registerIf {g : PolicyGate α} (h : PolicyGate.Bookkeeping g)
    {item : CommandItem α} {place : Option String}
    (hplace : ∀ task, taskAfter item task = place.or task) (verdict : Check Unit)
    (now : PyFloat α) (payload : String → Payload α) :
    ItemEffect g (g.registerIf verdict (some item.bot) place now).1 item
      (.ofDispatch payload (g.registerIf verdict (some item.bot) place now).2) := by
  rcases g.registerIf_cases verdict (some item.bot) place now with ⟨refusal, -, heq⟩ | ⟨-, heq⟩
  · rw [heq]
    cases refusal with
    | reason r => exact ⟨nofun, nofun, fun _ => rfl⟩
    | raised e => exact ⟨nofun, nofun, fun _ => rfl⟩
  · rw [heq]
    refine ⟨nofun, fun _ _ => ⟨h.register _ _ _, fun bot => ?_⟩, fun hno => absurd rfl (hno _)⟩
    rw [hplace]
    exact PolicyGate.get?_dropoffs_register g item.bot place now bot

omit [Field α] [LinearOrder α] [IsStrictOrderedRing α] in
/-- A stop clears the robot, or finds no task and changes nothing. -/
lemma itemEffect_cancel {g : PolicyGate α} (h : PolicyGate.Bookkeeping g) {item : CommandItem α}
    (hstop : ∀ task, taskAfter item task = none) :
    ItemEffect g (cancelTask g ("current:" ++ item.bot)).1 item
      (cancelTask g ("current:" ++ item.bot)).2 := by
  unfold cancelTask
  simp only [currentRobot?_current]
  cases hactive : (g.resolveAndClearActive item.bot).2 with
  | none =>
    refine ⟨?_, ?_, fun _ => h.resolveAndClearActive_none hactive⟩
    · intro hread
      cases hread
    · intro payload hok
      cases hok
  | some taskId =>
    refine ⟨?_, fun _ _ => ⟨h.resolveAndClearActive item.bot, fun bot => ?_⟩,
      fun hno => absurd rfl (hno _)⟩
    · intro hread
      cases hread
    · rw [hstop]
      exact g.dropoffs.get?_erase item.bot bot

/-- The tool call of an item has the effect the item says. -/
lemma itemEffect_runTool {g : PolicyGate α} (h : PolicyGate.Bookkeeping g) (r : Reading α)
    (item : CommandItem α) :
    ItemEffect g (runTool F iso fresh g r (commandItemToToolCall item)).1 item
      (runTool F iso fresh g r (commandItemToToolCall item)).2 := by
  unfold commandItemToToolCall
  cases haction : item.action with
  | navigate =>
    have hplace : ∀ task, taskAfter item task = item.destination.or task := by
      intro task
      rw [taskAfter, haction]
    exact itemEffect_registerIf h hplace _ _ _
  | wait =>
    have hplace : ∀ task, taskAfter item task = Option.none.or task := by
      intro task
      rw [taskAfter, haction, Option.none_or]
    exact itemEffect_registerIf h hplace _ _ _
  | stop =>
    have hstop : ∀ task, taskAfter item task = none := by
      intro task
      rw [taskAfter, haction]
    exact itemEffect_cancel h hstop
  | yield =>
    have hplace : ∀ task, taskAfter item task = item.retreatTo.or task := by
      intro task
      rw [taskAfter, haction]
    exact itemEffect_registerIf h hplace _ _ _
  | charge =>
    have hplace : ∀ task, taskAfter item task = (some chargingTask).or task := by
      intro task
      rw [taskAfter, haction, Option.some_or]
    exact itemEffect_registerIf h hplace _ _ _

lemma itemEffect_callTool {g : PolicyGate α} (h : PolicyGate.Bookkeeping g)
    (gen : Except PyErr GenCheckResult) (r : Reading α) (item : CommandItem α) :
    ItemEffect g (callTool F iso fresh g gen r (commandItemToToolCall item)).1 item
      (callTool F iso fresh g gen r (commandItemToToolCall item)).2 := by
  unfold callTool
  split
  · exact ⟨nofun, nofun, fun _ => rfl⟩
  · exact ⟨nofun, nofun, fun _ => rfl⟩
  · exact itemEffect_runTool h r item

/-- A negotiation never touches the gate. -/
lemma callTool_passive (g : PolicyGate α) (gen : Except PyErr GenCheckResult) (r : Reading α) :
    (callTool F iso fresh g gen r .passive).1 = g := by
  unfold callTool
  split <;> rfl

end Item

/-! ## The two tables agree -/

/-- The view of the scheduler is the table of the gate. -/
structure Mirrors {α : Type} (s : BridgeScheduler α) (g : PolicyGate α) : Prop where
  bookkeeping : PolicyGate.Bookkeeping g
  agrees : ∀ bot, s.currentTasks.get? bot = g.dropoffs.get? bot

section Agreement

variable {α : Type}

/-- When its row is appended, a call has a status that says whether it was accepted, or it was not
accepted and raised. -/
lemma statusOf_cases {result : ToolResult α} (h : result ≠ .read) :
    ((∃ payload, result = .ok payload) ∧ statusOf true result = .ok .ok) ∨
    ((∀ payload, result ≠ .ok payload) ∧ ((∃ e, statusOf true result = .error e) ∨
      ∃ status, statusOf true result = .ok status ∧ status ≠ .ok)) := by
  cases result with
  | ok payload => exact .inl ⟨⟨payload, rfl⟩, rfl⟩
  | rejected reason => exact .inr ⟨nofun, .inr ⟨.rejected, rfl, nofun⟩⟩
  | error e =>
    by_cases htype : e = .typeError
    · rw [htype]
      exact .inr ⟨nofun, .inr ⟨.error, rfl, nofun⟩⟩
    · refine .inr ⟨nofun, .inl ⟨e, ?_⟩⟩
      unfold statusOf
      split
      · rename_i heq
        cases heq
      · rename_i heq
        cases heq
      · rename_i heq
        cases heq
      · rename_i heq
        exact absurd (ToolResult.error.inj heq) htype
      · rename_i heq
        rw [ToolResult.error.inj heq]
  | read => exact absurd rfl h

variable [Field α] [LinearOrder α] [IsStrictOrderedRing α] {F : FloatFormat α}
  {L : MathLib α} {W : Wiring α} {iso : IsoTimestamp α} {fresh : FreshnessThresholds α}
  {env : ℕ → CallEnv α}

/-- One item: the scheduler reads its effect off the status. -/
lemma Mirrors.item {s : BridgeScheduler α} {tools : GateTools α} (h : Mirrors s tools.gate)
    (haudited : ∀ n, (env n).audited = true) (gen : ℤ) (item : CommandItem α) :
    ∃ tools', (∃ e, executeTool F iso fresh env gen tools (commandItemToToolCall item) =
        (tools', .error e) ∧ Mirrors s tools'.gate) ∨
      ∃ status, executeTool F iso fresh env gen tools (commandItemToToolCall item) =
        (tools', .ok status) ∧ Mirrors (s.trackCurrentTask item status) tools'.gate := by
  have heffect : ItemEffect tools.gate
      (callTool F iso fresh tools.gate (env tools.made).gen (env tools.made).reading
        (commandItemToToolCall item)).1 item
      (callTool F iso fresh tools.gate (env tools.made).gen (env tools.made).reading
        (commandItemToToolCall item)).2 :=
    itemEffect_callTool h.bookkeeping (env tools.made).gen (env tools.made).reading item
  refine ⟨(executeTool F iso fresh env gen tools (commandItemToToolCall item)).1, ?_⟩
  have hcases := statusOf_cases heffect.answered
  rw [← haudited tools.made] at hcases
  rcases hcases with ⟨⟨payload, hok⟩, hstatus⟩ | ⟨hno, ⟨e, he⟩ | ⟨status, hstatus, hne⟩⟩
  · obtain ⟨hbook, hdropoffs⟩ := heffect.accepted payload hok
    refine .inr ⟨.ok, Prod.ext rfl hstatus, hbook, fun bot => ?_⟩
    rw [get?_trackCurrentTask, h.agrees bot]
    exact (hdropoffs bot).symm
  · refine .inl ⟨e, Prod.ext rfl he, ?_⟩
    show Mirrors s (callTool _ _ _ _ _ _ _).1
    rw [heffect.refused hno]
    exact h
  · refine .inr ⟨status, Prod.ext rfl hstatus, ?_⟩
    show Mirrors _ (callTool _ _ _ _ _ _ _).1
    rw [heffect.refused hno, trackCurrentTask_of_ne s item hne]
    exact h

omit [Field α] [LinearOrder α] [IsStrictOrderedRing α] in
lemma Mirrors.congr {s s' : BridgeScheduler α} {g g' : PolicyGate α} (h : Mirrors s g)
    (hs : s'.currentTasks = s.currentTasks) (hg : g' = g) : Mirrors s' g' := by
  rw [hg]
  exact ⟨h.bookkeeping, by rw [hs]; exact h.agrees⟩

/-- The dispatch loop, up to its end or to the call that raised. -/
lemma Mirrors.dispatchItems {gen : ℤ} {items : List (CommandItem α)}
    {s s' : BridgeScheduler α} {tools tools' : GateTools α} {calls : List (ToolCall α)}
    {result : Except PyErr Unit} (h : Mirrors s tools.gate)
    (haudited : ∀ n, (env n).audited = true)
    (hr : BridgeScheduler.dispatchItems (executeTool F iso fresh env) gen items s tools =
      (s', tools', calls, result)) :
    Mirrors s' tools'.gate := by
  induction items generalizing s tools calls with
  | nil =>
    cases hr
    exact h
  | cons item items ih =>
    obtain ⟨next, ⟨e, he, hmirrors⟩ | ⟨status, hstatus, hmirrors⟩⟩ := h.item haudited gen item
    · rw [BridgeScheduler.dispatchItems_error items s he] at hr
      cases hr
      exact hmirrors
    · obtain ⟨⟨s'', tools'', calls'', result''⟩, hrest⟩ : ∃ rest, BridgeScheduler.dispatchItems
          (executeTool F iso fresh env) gen items
          (((s.trackCurrentTask item status).consumePendingTask item status).record item status)
          next = rest := ⟨_, rfl⟩
      rw [BridgeScheduler.dispatchItems_ok hstatus hrest] at hr
      cases hr
      exact ih (hmirrors.congr (currentTasks_record _ item status) rfl) hrest

/-- A whole command. -/
lemma Mirrors.dispatchCommand {gen : ℤ} {command : Command α} {s s' : BridgeScheduler α}
    {tools tools' : GateTools α} {calls : List (ToolCall α)} {result : Except PyErr Unit}
    (h : Mirrors s tools.gate) (haudited : ∀ n, (env n).audited = true)
    (hr : BridgeScheduler.dispatchCommand (executeTool F iso fresh env) gen command s tools =
      (s', tools', calls, result)) :
    Mirrors s' tools'.gate := by
  unfold BridgeScheduler.dispatchCommand at hr
  split at hr
  · rename_i hitems
    cases hr
    exact h.dispatchItems haudited hitems
  · rename_i hitems
    have hmirrors := h.dispatchItems haudited hitems
    split at hr
    · cases hr
      exact hmirrors
    · cases hr
      exact hmirrors.congr rfl (callTool_passive _ _ _)

/-- A response: what is no command leaves both tables alone. -/
lemma Mirrors.actOnResponse {gen : ℤ} {response : Except PyErr (PyVal α)} {s : BridgeScheduler α}
    {tools : GateTools α} (h : Mirrors s tools.gate) (haudited : ∀ n, (env n).audited = true) :
    Mirrors (s.actOnResponse W (executeTool F iso fresh env) gen response tools).scheduler
      (s.actOnResponse W (executeTool F iso fresh env) gen response tools).tools.gate := by
  unfold BridgeScheduler.actOnResponse
  split
  · exact h.congr rfl rfl
  · exact h.congr rfl rfl
  · exact h
  · split
    · exact h.congr rfl rfl
    · split
      · rename_i hcommand
        exact h.dispatchCommand haudited hcommand
      · rename_i hcommand
        exact (h.dispatchCommand haudited hcommand).congr rfl rfl

/-- A cycle, whichever way it ends. -/
lemma Mirrors.runCycle {s : BridgeScheduler α} {tools : GateTools α} (h : Mirrors s tools.gate)
    (haudited : ∀ n, (env n).audited = true) (i : CycleInput α) :
    Mirrors (s.runCycle F L W (executeTool F iso fresh env) tools i).scheduler
      (s.runCycle F L W (executeTool F iso fresh env) tools i).tools.gate := by
  rcases s.runCycle_cases F L (executeTool F iso fresh env) tools i with
    ⟨e, -, heq⟩ | ⟨s', htasks, -, heq | ⟨situation, text, -, heq⟩⟩
  · rw [heq]
    exact h.congr rfl rfl
  · rw [heq]
    exact h.congr htasks rfl
  · rw [heq]
    exact (h.congr htasks rfl : Mirrors s' tools.gate).actOnResponse haudited

end Agreement

/-! ## Runs -/

section Runs

variable {α : Type} [Field α] [LinearOrder α] [IsStrictOrderedRing α] (F : FloatFormat α)
  (L : MathLib α) (W : Wiring α) (iso : IsoTimestamp α) (fresh : FreshnessThresholds α)

omit [Field α] [LinearOrder α] [IsStrictOrderedRing α] in
/-- Nothing is under way, and nothing is reserved. -/
lemma mirrors_init (pendingTasks : List PendingTask) (emergency : Finset String) :
    Mirrors (BridgeScheduler.init pendingTasks : BridgeScheduler α) (.init emergency) where
  bookkeeping := PolicyGate.bookkeeping_init emergency
  agrees _ := rfl

/-- In the event every row of a call is appended to the audit log. -/
def CommanderEvent.Audited : CommanderEvent α → Prop
  | .cycle _ env => ∀ n, (env n).audited = true
  | .setEmergency _ _ | .propose _ => True

variable {F L W iso fresh} in
/-- Every event in which no row is lost keeps the two tables in step. -/
lemma mirrors_step (c : Commander α) (e : CommanderEvent α) (haudited : e.Audited)
    (h : Mirrors c.scheduler c.gate) :
    Mirrors ((commander F L W iso fresh).step c e).1.scheduler
      ((commander F L W iso fresh).step c e).1.gate := by
  cases e with
  | cycle input env => exact h.runCycle haudited input
  | setEmergency robot active => exact ⟨h.bookkeeping.setEmergency robot active, h.agrees⟩
  | propose proposal => exact h.congr rfl rfl

/-- **The view of the commander is the view of the gate.**  After any number of cycles, with any
answers of the model and of the tools, and as long as no row of the audit log is lost, the scheduler
believes a robot to be under way exactly to the destination of its active reservation. -/
theorem current_tasks_mirror_gate (pendingTasks : List PendingTask) (emergency : Finset String)
    (events : List (CommanderEvent α)) (haudited : ∀ e ∈ events, e.Audited) (bot : String) :
    ((commander F L W iso fresh).run (.init pendingTasks emergency)
        events).scheduler.currentTasks.get? bot =
      ((commander F L W iso fresh).run (.init pendingTasks emergency)
        events).gate.activeReservation bot := by
  have hmirrors := Machine.run_invariant (M := commander F L W iso fresh)
    (I := fun c => Mirrors c.scheduler c.gate) (fun c e => mirrors_step c e)
    ((commander F L W iso fresh).allSteps_of_forall (.init pendingTasks emergency) haudited)
    (mirrors_init pendingTasks emergency)
  rw [hmirrors.bookkeeping.activeReservation]
  exact hmirrors.agrees bot

end Runs

/-- What an accepted call meets: a current generation and a charged robot. -/
def acceptedEnv (_ : ℕ) : CallEnv ℚ where
  gen := .ok ⟨none, 1⟩
  reading := ⟨.ok (.dict [("robots", .dict [("bot1", .dict [("battery", .int 50)])])]), .fin 0⟩
  audited := true

theorem current_tasks_mirror_gate_after_navigate :
    ((commander (FloatFormat.exact ℚ) .rational twoTextsWiring (fun _ => none) .default).run
        (.init [] ∅) [.cycle ⟨.text emptyFleetText, fun _ => .content navigateText⟩
          acceptedEnv]).scheduler.currentTasks.get? "bot1" =
      ((commander (FloatFormat.exact ℚ) .rational twoTextsWiring (fun _ => none) .default).run
        (.init [] ∅) [.cycle ⟨.text emptyFleetText, fun _ => .content navigateText⟩
          acceptedEnv]).gate.activeReservation "bot1" :=
  current_tasks_mirror_gate _ _ _ _ _ [] ∅ _
    (by
      intro e he
      rw [List.mem_singleton.mp he]
      exact fun _ => rfl)
    "bot1"

/-- The gate reserves before the row is appended: when that fails, the exception takes the answer
with it, and the scheduler does not know of the reservation. -/
theorem current_tasks_miss_unaudited_call :
    ((commander (FloatFormat.exact ℚ) .rational twoTextsWiring (fun _ => none) .default).run
        (.init [] ∅) [.cycle ⟨.text emptyFleetText, fun _ => .content navigateText⟩
          fun n => { acceptedEnv n with audited := false }]).scheduler.currentTasks.get? "bot1" ≠
      ((commander (FloatFormat.exact ℚ) .rational twoTextsWiring (fun _ => none) .default).run
        (.init [] ∅) [.cycle ⟨.text emptyFleetText, fun _ => .content navigateText⟩
          fun n => { acceptedEnv n with audited := false }]).gate.activeReservation "bot1" := by
  decide

end LlmBridge

end MiniatureWarehouse
