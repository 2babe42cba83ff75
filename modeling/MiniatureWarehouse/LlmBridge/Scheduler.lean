import MiniatureWarehouse.LlmBridge.Situation
import MiniatureWarehouse.Mcp.Tools
import Mathlib.Algebra.Order.Field.Rat

/-!
# The cycle of the commander

A cycle publishes a new generation, builds the situation, asks the model, and dispatches the
command it answered with, one tool call after the other.  A timeout, an outage and a content that
is no command end the cycle without a dispatch; what is not one of the caught exceptions ends the
loop of the commander.

The bridge keeps its own view of what every robot is doing.  It is derived from the answers of the
tools alone: an accepted call sets the destination of its robot, an accepted stop clears it.
-/

namespace MiniatureWarehouse

namespace LlmBridge

/-! ## Commands and calls -/

/-- `CommandAction.value`. -/
def actionValue : CommandAction → String
  | .navigate => "navigate"
  | .wait => "wait"
  | .stop => "stop"
  | .yield => "yield"
  | .charge => "charge"

/-- `CommandItem`, with the checks of its location validator as fields. -/
structure CommandItem (α : Type) extends MiniatureWarehouse.CommandItem where
  via : Option String
  duration : Option (PyFloat α)
  retreatTo : Option String
  retreat_known : ∀ d, retreatTo = some d → isKnownLocation d = true

/-- `StartNegotiation`. -/
structure StartNegotiation where
  starter : String
  deadlockOrEscalationId : String
  context : String

/-- `Command`. -/
structure Command (α : Type) where
  reasoning : String
  commands : List (CommandItem α)
  priorityExplanation : Option String
  startNegotiation : Option StartNegotiation

/-- `command_item_to_tool_call`, the generation and the idempotency key apart. -/
def commandItemToToolCall {α : Type} (item : CommandItem α) : ToolCall α :=
  match item.action with
  | .navigate => .dispatchTask (some item.bot) none item.destination item.via "deliver" none
  | .wait => .dispatchTask (some item.bot) none none none "wait" item.duration
  | .stop => .cancelTask ("current:" ++ item.bot)
  | .yield => .dispatchTask (some item.bot) none item.retreatTo none "yield" none
  | .charge => .sendToCharging item.bot

/-- The `status` of an answer. -/
inductive ToolStatus
  | ok
  | rejected
  | error
  deriving DecidableEq, Repr

/-- The text of a status. -/
def ToolStatus.text : ToolStatus → String
  | .ok => "ok"
  | .rejected => "rejected"
  | .error => "error"

/-- `ToolExecutor`: a tool call of a generation is answered with a status, or raises. -/
abbrev ToolExecutor (α σ : Type) := ℤ → σ → ToolCall α → σ × Except PyErr ToolStatus

/-- Tools that give the answers of a list, whatever they are asked. -/
def scripted {α : Type} (answers : ℕ → Except PyErr ToolStatus) : ToolExecutor α ℕ :=
  fun _ made _ => (made + 1, answers made)

/-! ## The working memory -/

/-- `HISTORY_MAXLEN`. -/
def historyMaxlen : ℕ := 5

/-- `CHARGING_TASK`. -/
def chargingTask : String := "charging_station"

/-- `BridgeScheduler`: what it keeps from one cycle to the next. -/
structure BridgeScheduler (α : Type) where
  currentGen : ℤ
  turn : ℕ
  nav2Only : Bool
  lastCommand : Option (Command α)
  consecutiveFailures : ℕ
  history : List HistoryEntry
  currentTasks : Dict String String
  pendingTasks : List PendingTask
  pendingProposal : Option (Proposal α)

/-- `accept_proposal`: within two generations. -/
def acceptProposal {α : Type} (proposal : Proposal α) (currentGen : ℤ) : Bool :=
  |currentGen - proposal.genId| ≤ 2

/-- `_describe_action`. -/
def describeAction {α : Type} (item : CommandItem α) : String :=
  let label := item.bot ++ " " ++ actionValue item.action
  match item.destination.or item.retreatTo with
  | some target => label ++ " " ++ target
  | none => label

namespace BridgeScheduler

variable {α : Type}

/-- A scheduler as it is built, with a seed for the task queue. -/
def init (pendingTasks : List PendingTask) : BridgeScheduler α :=
  ⟨0, 0, false, none, 0, [], .empty, pendingTasks, none⟩

/-- `set_negotiation_proposal`. -/
def setNegotiationProposal (s : BridgeScheduler α) (proposal : Option (Proposal α)) :
    BridgeScheduler α :=
  { s with pendingProposal := proposal }

/-- `_maybe_attach_proposal`: a pending proposal is consumed, attached or not. -/
def maybeAttachProposal (s : BridgeScheduler α) (situation : Situation α) (gen : ℤ) :
    BridgeScheduler α × Situation α :=
  match s.pendingProposal with
  | none => (s, situation)
  | some proposal =>
    ({ s with pendingProposal := none },
      if acceptProposal proposal gen then { situation with negotiationProposal := some proposal }
      else situation)

/-- `_track_current_task`: only an accepted call changes the view. -/
def trackCurrentTask (s : BridgeScheduler α) (item : CommandItem α) (status : ToolStatus) :
    BridgeScheduler α :=
  if status ≠ .ok then s
  else
    match item.action, item.destination, item.retreatTo with
    | .navigate, some destination, _ =>
      { s with currentTasks := s.currentTasks.set item.bot destination }
    | .yield, _, some retreat => { s with currentTasks := s.currentTasks.set item.bot retreat }
    | .charge, _, _ => { s with currentTasks := s.currentTasks.set item.bot chargingTask }
    | .stop, _, _ => { s with currentTasks := s.currentTasks.erase item.bot }
    | _, _, _ => s

/-- `_consume_pending_task`: the first queued task that ends where an accepted navigation goes. -/
def consumePendingTask (s : BridgeScheduler α) (item : CommandItem α) (status : ToolStatus) :
    BridgeScheduler α :=
  match status, item.action, item.destination with
  | .ok, .navigate, some destination =>
    { s with pendingTasks := s.pendingTasks.eraseP fun task => task.to_ = destination }
  | _, _, _ => s

/-- The history row of a call; only the last few are kept. -/
def record (s : BridgeScheduler α) (item : CommandItem α) (status : ToolStatus) :
    BridgeScheduler α :=
  let history := s.history ++ [⟨s.turn, describeAction item, status.text⟩]
  { s with history := history.drop (history.length - historyMaxlen) }

/-- `_on_timeout`. -/
def onTimeout (s : BridgeScheduler α) (outageAfter : ℕ) : BridgeScheduler α :=
  let failures := s.consecutiveFailures + 1
  { s with
    consecutiveFailures := failures
    nav2Only := s.nav2Only || decide (outageAfter ≤ failures) }

/-- `_on_outage`. -/
def onOutage (s : BridgeScheduler α) : BridgeScheduler α :=
  { s with consecutiveFailures := s.consecutiveFailures + 1, nav2Only := true }

/-- `_on_invalid_response`. -/
def onInvalidResponse (s : BridgeScheduler α) : BridgeScheduler α :=
  { s with consecutiveFailures := s.consecutiveFailures + 1 }

end BridgeScheduler

/-! ## The answer of the model -/

/-- What the gateway delivers: nothing in time, nothing at all, a completion without a content, or
the content of the assistant message. -/
inductive Completion
  | timeout
  | unavailable
  | malformed
  | content (text : String)

/-- `_LOCATION_FIELDS`. -/
def locationFields : List String := ["destination", "via", "retreat_to"]

section Parse

variable {α : Type}

/-- The blank location fields of one item, set to `None` in place. -/
def coerceItem : PyVal α → PyVal α
  | .dict es =>
    .dict (locationFields.foldl (fun es field =>
      match Dict.find es field with
      | some (.str "") => Dict.assign es field .null
      | _ => es) es)
  | v => v

/-- `_coerce_empty_locations`. -/
def coerceEmptyLocations (es : List (String × PyVal α)) : List (String × PyVal α) :=
  match Dict.find es "commands" with
  | some (.list items) => Dict.assign es "commands" (.list (items.map coerceItem))
  | _ => es

/-- `parse_command_content`: a decoding error is a `ValueError`, what the decoder raises besides
is not caught. -/
def parseCommandContent (scan : JsonScan α) (content : String) : Except PyErr (PyVal α) :=
  match scan.loads content with
  | .error .valueError => .error .valueError
  | .error .recursionError => .error .recursionError
  | .ok (.dict es) => .ok (.dict (coerceEmptyLocations es))
  | .ok _ => .error .valueError

end Parse

/-! ## The cycle -/

/-- What a scheduler is wired to. -/
structure Wiring (α : Type) [Field α] [LinearOrder α] where
  builder : SituationBuilder α
  validateCommand : PyVal α → Option (Command α)
  outageAfter : ℕ

/-- What one cycle meets: the state file, and what the model answers to the situation. -/
structure CycleInput (α : Type) where
  state : FileRead
  complete : Situation α → Completion

/-- What a cycle leaves behind: the scheduler, the tools, the calls that were made, and what
`run_cycle` returned or raised. -/
structure CycleResult (α σ : Type) where
  scheduler : BridgeScheduler α
  tools : σ
  calls : List (ToolCall α)
  outcome : Except PyErr Bool

namespace BridgeScheduler

section Dispatch

variable {α σ : Type} (execute : ToolExecutor α σ)

/-- The dispatch loop: each call in turn, and after it the bookkeeping of its answer. -/
def dispatchItems (gen : ℤ) : List (CommandItem α) → BridgeScheduler α → σ →
    BridgeScheduler α × σ × List (ToolCall α) × Except PyErr Unit
  | [], s, tools => (s, tools, [], .ok ())
  | item :: items, s, tools =>
    let call := commandItemToToolCall item
    match execute gen tools call with
    | (tools, .error e) => (s, tools, [call], .error e)
    | (tools, .ok status) =>
      let s := ((s.trackCurrentTask item status).consumePendingTask item status).record item status
      let (s, tools, calls, result) := dispatchItems gen items s tools
      (s, tools, call :: calls, result)

variable {execute}

/-- A call that raises ends the loop. -/
lemma dispatchItems_error {gen : ℤ} {item : CommandItem α} (items : List (CommandItem α))
    (s : BridgeScheduler α) {tools tools' : σ} {e : PyErr}
    (h : execute gen tools (commandItemToToolCall item) = (tools', .error e)) :
    dispatchItems execute gen (item :: items) s tools =
      (s, tools', [commandItemToToolCall item], .error e) := by
  unfold dispatchItems
  simp only [h]

/-- An answered call is booked, and the loop goes on. -/
lemma dispatchItems_ok {gen : ℤ} {item : CommandItem α} {items : List (CommandItem α)}
    {s s' : BridgeScheduler α} {tools tools' tools'' : σ} {status : ToolStatus}
    {calls : List (ToolCall α)} {result : Except PyErr Unit}
    (h : execute gen tools (commandItemToToolCall item) = (tools', .ok status))
    (hrest : dispatchItems execute gen items
      (((s.trackCurrentTask item status).consumePendingTask item status).record item status)
      tools' = (s', tools'', calls, result)) :
    dispatchItems execute gen (item :: items) s tools =
      (s', tools'', commandItemToToolCall item :: calls, result) := by
  conv_lhs => unfold dispatchItems
  simp only [h, hrest]

variable (execute)

/-- `_dispatch_command`: the items, then the negotiation the commander asks for. -/
def dispatchCommand (gen : ℤ) (command : Command α) (s : BridgeScheduler α) (tools : σ) :
    BridgeScheduler α × σ × List (ToolCall α) × Except PyErr Unit :=
  match dispatchItems execute gen command.commands s tools with
  | (s, tools, calls, .error e) => (s, tools, calls, .error e)
  | (s, tools, calls, .ok ()) =>
    match command.startNegotiation with
    | none => (s, tools, calls, .ok ())
    | some _ =>
      let (tools, answer) := execute gen tools .passive
      (s, tools, calls ++ [.passive], answer.map fun _ => ())

end Dispatch

section Cycle

variable {α σ : Type} [Field α] [LinearOrder α] [IsStrictOrderedRing α] (F : FloatFormat α)
  (L : MathLib α) (W : Wiring α) (execute : ToolExecutor α σ)

omit [IsStrictOrderedRing α] in
/-- The cycle from the response on: a response that is no command is ignored. -/
def actOnResponse (gen : ℤ) (response : Except PyErr (PyVal α)) (s : BridgeScheduler α)
    (tools : σ) : CycleResult α σ :=
  match response with
  | .error .valueError | .error .typeError => ⟨s.onInvalidResponse, tools, [], .ok false⟩
  | .error e => ⟨s, tools, [], .error e⟩
  | .ok response =>
    match W.validateCommand response with
    | none => ⟨s.onInvalidResponse, tools, [], .ok false⟩
    | some command =>
      match dispatchCommand execute gen command s tools with
      | (s, tools, calls, .error e) => ⟨s, tools, calls, .error e⟩
      | (s, tools, calls, .ok ()) =>
        ⟨{ s with lastCommand := some command, consecutiveFailures := 0, nav2Only := false },
          tools, calls, .ok true⟩

/-- The generation of a cycle, bumped and published before anything else. -/
def bump (s : BridgeScheduler α) : BridgeScheduler α :=
  { s with currentGen := s.currentGen + 1, turn := s.turn + 1 }

/-- `run_cycle`. -/
def runCycle (s : BridgeScheduler α) (tools : σ) (i : CycleInput α) : CycleResult α σ :=
  let s := s.bump
  match W.builder.build F L i.state s.turn s.currentGen s.history s.pendingTasks s.currentTasks with
  | .error e => ⟨s, tools, [], .error e⟩
  | .ok none => ⟨s, tools, [], .ok false⟩
  | .ok (some situation) =>
    let (s, situation) := s.maybeAttachProposal situation s.currentGen
    match i.complete situation with
    | .timeout => ⟨s.onTimeout W.outageAfter, tools, [], .ok false⟩
    | .unavailable => ⟨s.onOutage, tools, [], .ok false⟩
    | .malformed => actOnResponse W execute s.currentGen (.error .valueError) s tools
    | .content text =>
      actOnResponse W execute s.currentGen (parseCommandContent W.builder.scan text) s tools

variable {W}

omit [Field α] [LinearOrder α] [IsStrictOrderedRing α] in
/-- A proposal changes neither the view of the scheduler nor its generation. -/
lemma maybeAttachProposal_fst (s : BridgeScheduler α) (situation : Situation α) (gen : ℤ) :
    (s.maybeAttachProposal situation gen).1.currentTasks = s.currentTasks ∧
      (s.maybeAttachProposal situation gen).1.currentGen = s.currentGen := by
  unfold maybeAttachProposal
  split <;> exact ⟨rfl, rfl⟩

/-- How a cycle ends: the situation cannot be built, or there is nothing to act on, or the cycle
acts on the content of a message. -/
lemma runCycle_cases (s : BridgeScheduler α) (tools : σ) (i : CycleInput α) :
    (∃ e, W.builder.build F L i.state (s.turn + 1) (s.currentGen + 1) s.history s.pendingTasks
        s.currentTasks = .error e ∧
      s.runCycle F L W execute tools i = ⟨s.bump, tools, [], .error e⟩) ∨
    ∃ s', s'.currentTasks = s.currentTasks ∧ s'.currentGen = s.currentGen + 1 ∧
      (s.runCycle F L W execute tools i = ⟨s', tools, [], .ok false⟩ ∨
        ∃ situation text, i.complete situation = .content text ∧
          s.runCycle F L W execute tools i =
            s'.actOnResponse W execute (s.currentGen + 1)
              (parseCommandContent W.builder.scan text) tools) := by
  simp only [runCycle]
  split
  · rename_i e hbuild
    exact .inl ⟨e, hbuild, rfl⟩
  · exact .inr ⟨s.bump, rfl, rfl, .inl rfl⟩
  · rename_i situation _
    obtain ⟨htasks, hgen⟩ := s.bump.maybeAttachProposal_fst situation s.bump.currentGen
    generalize s.bump.maybeAttachProposal situation s.bump.currentGen = attached at htasks hgen
    obtain ⟨s', situation'⟩ := attached
    have hgen : s'.currentGen = s.currentGen + 1 := hgen
    simp only [hgen]
    cases hanswer : i.complete situation' with
    | timeout => exact .inr ⟨s'.onTimeout W.outageAfter, htasks, hgen, .inl rfl⟩
    | unavailable => exact .inr ⟨s'.onOutage, htasks, hgen, .inl rfl⟩
    | malformed => exact .inr ⟨s'.onInvalidResponse, htasks, hgen, .inl rfl⟩
    | content text => exact .inr ⟨s', htasks, hgen, .inr ⟨situation', text, hanswer, rfl⟩⟩

end Cycle

end BridgeScheduler

/-! ## A wiring to evaluate cycles with -/

/-- A state file without robots. -/
def emptyFleetText : String := "\x7b\"timestamp\": \"\", \"robots\": \x7b\x7d\x7d"

/-- The content of a message with one navigation. -/
def navigateText : String :=
  "\x7b\"reasoning\": \"\", \"commands\": [\x7b\"bot\": \"bot1\", \"action\": \"navigate\", " ++
    "\"destination\": \"shelf_1\"\x7d]\x7d"

/-- The command of that message. -/
def navigateCommand : Command ℚ :=
  ⟨"", [⟨⟨"bot1", .navigate, some "shelf_1", by simp [isKnownLocation, knownLocations]⟩, none, none,
    none, nofun⟩], none, none⟩

/-- The decoder on the two texts; any other one is not JSON here. -/
def twoTextsScan : JsonScan ℚ := fun text =>
  if text = emptyFleetText then .ok (.dict [("timestamp", .str ""), ("robots", .dict [])])
  else if text = navigateText then
    .ok (.dict [("reasoning", .str ""), ("commands", .list [.dict [("bot", .str "bot1"),
      ("action", .str "navigate"), ("destination", .str "shelf_1")]])])
  else .error .valueError

/-- A wiring over that decoder, with the two validations on the values it returns. -/
def twoTextsWiring : Wiring ℚ where
  builder :=
    { scan := twoTextsScan
      validate := fun v => (v.get? "robots").map fun _ => ⟨"", .empty⟩
      copies := fun _ => true
      mode := "none"
      layout := ""
      emergencyMinDistance := .fin (3 / 10)
      horizon := .fin 3 }
  validateCommand := fun v => (v.get? "commands").map fun _ => navigateCommand
  outageAfter := 2

end LlmBridge

end MiniatureWarehouse
