import MiniatureWarehouse.Framework.Edges
import MiniatureWarehouse.Mcp.GateBookkeeping
import MiniatureWarehouse.Mcp.Tools

/-!
# The mirror of the emergency level

The guardian holds an emergency stop as a level: it repeats the stop as long as the reason for it
lasts.  The mirror keeps when it last heard a stop of each robot, flags the robot in the gate, and
at every sweep lets go of the robots it has not heard of for longer than the clear window.

Two tables in two objects are kept in step this way.  A run interleaves stops and sweeps with tool
calls on the same gate: after every step the gate flags exactly the robots the mirror holds, those
are the robots whose last stop no sweep has yet found too old (`HeldSince`), and no call that
names one of them is accepted.
-/

namespace MiniatureWarehouse

/-- A validated `emergency_clear_after_s`: configuration may only hold the flag longer than the
default `EMERGENCY_CLEAR_AFTER_S`. -/
structure ClearAfter (α : Type) [Field α] [LinearOrder α] where
  value : α
  default_le : 1 ≤ value

/-- `EMERGENCY_CLEAR_AFTER_S`. -/
def ClearAfter.default {α : Type} [Field α] [LinearOrder α] : ClearAfter α := ⟨1, le_rfl⟩

/-- `EmergencyLevelMirror`, with the gate it sets the flags of. -/
structure EmergencyLevelMirror (α : Type) where
  gate : PolicyGate α
  lastStop : Dict String α

namespace EmergencyLevelMirror

/-- A stop of a robot, a turn of the sweep timer, or a tool call with its generation check and
what it reads. -/
inductive Event (α : Type)
  | stopSignal (bot : String) (now : α)
  | sweep (now : α)
  | call (call : ToolCall α) (gen : Except PyErr GenCheckResult) (reading : Reading α)

section Mirror

variable {α : Type}

/-- The mirror of a gate that starts without flags. -/
def init : EmergencyLevelMirror α := ⟨.init ∅, .empty⟩

/-- `held_bots`. -/
def heldBots (m : EmergencyLevelMirror α) : Finset String :=
  (m.lastStop.entries.map Prod.fst).toFinset

/-- `on_stop_signal`. -/
def onStopSignal (m : EmergencyLevelMirror α) (bot : String) (now : α) : EmergencyLevelMirror α :=
  ⟨m.gate.setEmergency bot true, m.lastStop.set bot now⟩

/-- Letting go of a robot, inside a sweep. -/
def clear (m : EmergencyLevelMirror α) (bot : String) : EmergencyLevelMirror α :=
  ⟨m.gate.setEmergency bot false, m.lastStop.erase bot⟩

variable [Field α] [LinearOrder α] [IsStrictOrderedRing α] (F : FloatFormat α)

/-- The silence since a stop is longer than the window: at exactly the window the robot is kept. -/
def silent (window : ClearAfter α) (now seen : α) : Bool :=
  decide (.fin window.value < F.sub (.fin now) (.fin seen))

/-- `sweep`. -/
def sweep (window : ClearAfter α) (m : EmergencyLevelMirror α) (now : α) :
    EmergencyLevelMirror α :=
  m.lastStop.entries.foldl
    (fun m e => if silent F window now e.2 then m.clear e.1 else m) m

/-- The mirror, its gate and the tools on it as one machine. -/
def machine (iso : IsoTimestamp α) (fresh : FreshnessThresholds α) (window : ClearAfter α) :
    Machine (EmergencyLevelMirror α) (Event α) (Option (ToolResult α)) where
  step m
    | .stopSignal bot now => (m.onStopSignal bot now, none)
    | .sweep now => (m.sweep F window now, none)
    | .call call gen reading =>
      let (gate, result) := callTool F iso fresh m.gate gen reading call
      ({ m with gate }, some result)

/-- An input that ends the hold of a stop: the next stop of the robot, or a sweep that finds it
too old. -/
def Ends (window : ClearAfter α) (bot : String) (seen : α) : Event α → Prop
  | .stopSignal bot' _ => bot' = bot
  | .sweep now => silent F window now seen = true
  | .call .. => False

/-- The last stop of the robot came at this time, and no sweep since has found it too old. -/
def HeldSince (window : ClearAfter α) (bot : String) (seen : α) (es : List (Event α)) : Prop :=
  Edges.Since (fun e => e = .stopSignal bot seen) (Ends F window bot seen) es

end Mirror

/-! ## What the steps do to the two tables -/

section Tables

variable {α : Type} {m : EmergencyLevelMirror α}

/-- The gate flags exactly the robots the mirror holds. -/
def InStep (m : EmergencyLevelMirror α) : Prop :=
  ∀ bot, bot ∈ m.gate.emergency ↔ (m.lastStop.get? bot).isSome

lemma mem_heldBots (m : EmergencyLevelMirror α) (bot : String) :
    bot ∈ m.heldBots ↔ (m.lastStop.get? bot).isSome := by
  unfold heldBots
  rw [List.mem_toFinset, ← not_iff_not, ← Dict.find_eq_none, Option.not_isSome_iff_eq_none]
  rfl

lemma InStep.emergency_eq (h : InStep m) : m.gate.emergency = m.heldBots := by
  ext bot
  rw [h bot, mem_heldBots]

lemma InStep.onStopSignal (h : InStep m) (bot : String) (now : α) :
    InStep (m.onStopSignal bot now) := by
  intro bot'
  have hget : (m.onStopSignal bot now).lastStop.get? bot' =
      if bot' = bot then some now else m.lastStop.get? bot' := m.lastStop.get?_set bot now bot'
  have hflag : (m.onStopSignal bot now).gate.emergency = insert bot m.gate.emergency := rfl
  rw [hget, hflag, Finset.mem_insert, h bot']
  by_cases hbot : bot' = bot
  · simp [hbot]
  · simp [hbot]

lemma InStep.clear (h : InStep m) (bot : String) : InStep (m.clear bot) := by
  intro bot'
  have hget : (m.clear bot).lastStop.get? bot' =
      if bot' = bot then none else m.lastStop.get? bot' := m.lastStop.get?_erase bot bot'
  have hflag : (m.clear bot).gate.emergency = m.gate.emergency.erase bot := rfl
  rw [hget, hflag, Finset.mem_erase, h bot']
  by_cases hbot : bot' = bot
  · simp [hbot]
  · simp [hbot]

variable [Field α] [LinearOrder α] [IsStrictOrderedRing α] {F : FloatFormat α}
  {window : ClearAfter α}

/-- Letting go of the silent ones among some entries. -/
lemma get?_foldl_clear (now : α) (es : List (String × α)) (m : EmergencyLevelMirror α)
    (bot : String) :
    (es.foldl (fun m e => if silent F window now e.2 then m.clear e.1 else m) m).lastStop.get? bot =
      if es.any (fun e => e.1 = bot ∧ silent F window now e.2) then none
      else m.lastStop.get? bot := by
  induction es generalizing m with
  | nil => rfl
  | cons e es ih =>
    have hget : (if silent F window now e.2 then m.clear e.1 else m).lastStop.get? bot =
        if e.1 = bot ∧ silent F window now e.2 then none else m.lastStop.get? bot := by
      by_cases hsilent : silent F window now e.2 = true
      · have herase : (m.clear e.1).lastStop.get? bot =
            if bot = e.1 then none else m.lastStop.get? bot := m.lastStop.get?_erase e.1 bot
        rw [if_pos hsilent, herase]
        simp [hsilent, eq_comm]
      · rw [if_neg hsilent, if_neg (fun h => hsilent h.2)]
    rw [List.foldl_cons, ih, hget, List.any_cons]
    by_cases hnow : e.1 = bot ∧ silent F window now e.2 = true
    · simp [hnow]
    · rw [if_neg hnow, decide_eq_false hnow, Bool.false_or]

/-- A sweep keeps the robots that are not silent, with their last stop. -/
lemma get?_sweep (m : EmergencyLevelMirror α) (now : α) (bot : String) :
    (m.sweep F window now).lastStop.get? bot =
      (m.lastStop.get? bot).filter fun seen => !silent F window now seen := by
  unfold sweep
  rw [get?_foldl_clear]
  cases hget : m.lastStop.get? bot with
  | none => simp
  | some seen =>
    have hany : (m.lastStop.entries.any fun e => e.1 = bot ∧ silent F window now e.2) =
        silent F window now seen := by
      rw [Bool.eq_iff_iff, List.any_eq_true]
      constructor
      · rintro ⟨⟨bot', seen'⟩, hmem, hentry⟩
        obtain ⟨rfl, hsilent⟩ := of_decide_eq_true hentry
        have hseen : some seen' = some seen := by rw [← hget, m.lastStop.mem_entries_iff.mp hmem]
        exact Option.some.inj hseen ▸ hsilent
      · intro hsilent
        exact ⟨(bot, seen), m.lastStop.mem_entries_iff.mpr hget, decide_eq_true ⟨rfl, hsilent⟩⟩
    rw [hany]
    cases hsilent : silent F window now seen <;> simp [Option.filter, hsilent]

lemma InStep.sweep (h : InStep m) (now : α) : InStep (m.sweep F window now) := by
  unfold EmergencyLevelMirror.sweep
  generalize m.lastStop.entries = es
  induction es generalizing m with
  | nil => exact h
  | cons e es ih =>
    rw [List.foldl_cons]
    split_ifs with hsilent
    · exact ih (h.clear e.1)
    · exact ih h

end Tables

/-! ## What the tools see of the flags -/

section Tools

open PolicyGate

variable {α : Type}

/-- The robot a call is about to move. -/
def named? : ToolCall α → Option String
  | .dispatchTask robot .. => robot
  | .sendToCharging robot => some robot
  | .cancelTask _ | .passive => none

lemma eq_ok_of_ofDispatch {payload : String → Payload α} {result : DispatchResult} {p : Payload α}
    (h : ToolResult.ofDispatch payload result = .ok p) : ∃ taskId, result = .ok taskId := by
  cases result with
  | ok taskId => exact ⟨taskId, rfl⟩
  | error refusal => cases refusal <;> cases h

variable [Field α] [LinearOrder α] [IsStrictOrderedRing α] {F : FloatFormat α}
  {iso : IsoTimestamp α} {fresh : FreshnessThresholds α}

/-- No tool touches the flags. -/
lemma callTool_emergency (g : PolicyGate α) (gen : Except PyErr GenCheckResult) (r : Reading α)
    (call : ToolCall α) : (callTool F iso fresh g gen r call).1.emergency = g.emergency := by
  cases gen with
  | error e => rfl
  | ok result =>
    obtain ⟨reason, cur⟩ := result
    cases reason with
    | some reason => rfl
    | none =>
      cases call with
      | dispatchTask robot pickup dropoff via action duration =>
        exact registerIf_emergency g _ robot dropoff r.now
      | sendToCharging robot =>
        exact registerIf_emergency g _ (some robot) (some "charging_station") r.now
      | passive => rfl
      | cancelTask taskId =>
        show (cancelTask g taskId).1.emergency = g.emergency
        unfold cancelTask
        cases currentRobot? taskId with
        | some robot => rfl
        | none =>
          rcases g.resolveAndClearByTaskId_cases taskId with ⟨owner, -, heq⟩ | ⟨-, heq⟩
          · simp only [heq]
          · simp only [heq]

/-- A call that moves a robot is accepted only while the robot is not flagged. -/
lemma not_mem_emergency_of_ok {g : PolicyGate α} {gen : Except PyErr GenCheckResult}
    {r : Reading α} {call : ToolCall α} {robot : String} {payload : Payload α}
    (hrobot : named? call = some robot) (h : (callTool F iso fresh g gen r call).2 = .ok payload) :
    robot ∉ g.emergency := by
  cases gen with
  | error e => cases h
  | ok result =>
    obtain ⟨reason, cur⟩ := result
    cases reason with
    | some reason => cases h
    | none =>
      cases call with
      | dispatchTask robot' pickup dropoff via action duration =>
        have hrobot : robot' = some robot := hrobot
        subst hrobot
        obtain ⟨taskId, hok⟩ := eq_ok_of_ofDispatch h
        have hok : (g.validateAndRegisterDispatch F iso fresh r (some robot) pickup dropoff
            action).2 = .ok taskId := hok
        exact (validateDispatchInner_eq_ok (registerIf_ok hok)).1
      | sendToCharging robot' =>
        obtain rfl : robot' = robot := Option.some.inj hrobot
        obtain ⟨taskId, hok⟩ := eq_ok_of_ofDispatch h
        have hok : (g.validateAndRegisterCharging F iso fresh r robot').2 = .ok taskId := hok
        exact (validateChargingInner_eq_ok (registerIf_ok hok)).1
      | cancelTask taskId => cases hrobot
      | passive => cases hrobot

end Tools

/-! ## Runs of the mirror -/

section Runs

variable {α : Type} [Field α] [LinearOrder α] [IsStrictOrderedRing α] (F : FloatFormat α)
  (iso : IsoTimestamp α) (fresh : FreshnessThresholds α) (window : ClearAfter α)

/-- The flags follow the mirror, and the mirror follows the stops and sweeps so far. -/
structure Follows (es : List (Event α)) (m : EmergencyLevelMirror α) : Prop where
  inStep : InStep m
  lastStop : ∀ bot seen, m.lastStop.get? bot = some seen ↔ HeldSince F window bot seen es

variable {F window}

lemma Follows.stopSignal {es : List (Event α)} {m : EmergencyLevelMirror α}
    (h : Follows F window es m) (bot : String) (now : α) :
    Follows F window (es ++ [.stopSignal bot now]) (m.onStopSignal bot now) := by
  refine ⟨h.inStep.onStopSignal bot now, ?_⟩
  intro bot' seen
  have hget : (m.onStopSignal bot now).lastStop.get? bot' =
      if bot' = bot then some now else m.lastStop.get? bot' := m.lastStop.get?_set bot now bot'
  unfold HeldSince
  rw [Edges.since_concat, hget]
  by_cases hbot : bot' = bot
  · subst hbot
    simp [Ends]
  · have hends : ¬ Ends F window bot' seen (.stopSignal bot now) := fun h => hbot h.symm
    have hbegins : (Event.stopSignal bot now : Event α) ≠ .stopSignal bot' seen := by
      intro heq
      exact hbot (Event.stopSignal.inj heq).1.symm
    rw [if_neg hbot, h.lastStop bot' seen]
    exact ⟨fun hheld => .inr ⟨hheld, hends⟩, fun hheld => (hheld.resolve_left hbegins).1⟩

lemma Follows.sweep {es : List (Event α)} {m : EmergencyLevelMirror α}
    (h : Follows F window es m) (now : α) :
    Follows F window (es ++ [.sweep now]) (m.sweep F window now) := by
  refine ⟨h.inStep.sweep now, ?_⟩
  intro bot seen
  have hbegins : (Event.sweep now : Event α) ≠ .stopSignal bot seen := by
    intro heq
    cases heq
  unfold HeldSince
  rw [Edges.since_concat, get?_sweep, Option.filter_eq_some_iff, h.lastStop bot seen,
    Bool.not_eq_true', ← Bool.not_eq_true]
  exact ⟨fun hheld => .inr hheld, fun hheld => hheld.resolve_left hbegins⟩

lemma Follows.call {es : List (Event α)} {m : EmergencyLevelMirror α}
    (h : Follows F window es m) (call : ToolCall α) (gen : Except PyErr GenCheckResult)
    (reading : Reading α) :
    Follows F window (es ++ [.call call gen reading])
      { m with gate := (callTool F iso fresh m.gate gen reading call).1 } := by
  refine ⟨?_, ?_⟩
  · intro bot
    rw [callTool_emergency]
    exact h.inStep bot
  · intro bot seen
    have hbegins : (Event.call call gen reading : Event α) ≠ .stopSignal bot seen := by
      intro heq
      cases heq
    unfold HeldSince
    rw [Edges.since_concat]
    have hlast := h.lastStop bot seen
    exact ⟨fun hget => .inr ⟨hlast.mp hget, id⟩,
      fun hheld => hlast.mpr (hheld.resolve_left hbegins).1⟩

variable (F window)

theorem follows_run (es : List (Event α)) :
    Follows F window es ((machine F iso fresh window).run init es) := by
  refine Machine.run_history ?_ ?_ es
  · refine ⟨fun bot => ?_, fun bot seen => ?_⟩
    · exact iff_of_false (Finset.notMem_empty bot) Bool.false_ne_true
    · exact iff_of_false (by intro h; cases h) Edges.not_since_nil
  · intro past e h
    cases e with
    | stopSignal bot now => exact h.stopSignal bot now
    | sweep now => exact h.sweep now
    | call call gen reading => exact h.call iso fresh call gen reading

/-- **The emergency mirror.**  After every interleaving of stops, sweeps and tool calls the gate
flags exactly the robots the mirror holds; a robot is flagged exactly when no sweep since its last
stop has found it silent for longer than the window; and whatever call comes next, it is not
accepted when it names a flagged robot. -/
theorem emergency_mirror (es : List (Event α)) :
    let m := (machine F iso fresh window).run init es
    m.gate.emergency = m.heldBots ∧
    (∀ bot, bot ∈ m.gate.emergency ↔ ∃ seen, HeldSince F window bot seen es) ∧
    (∀ call gen reading robot payload, named? call = some robot → robot ∈ m.gate.emergency →
      ((machine F iso fresh window).step m (.call call gen reading)).2 ≠ some (.ok payload)) := by
  have h := follows_run F iso fresh window es
  intro m
  refine ⟨h.inStep.emergency_eq, ?_, ?_⟩
  · intro bot
    rw [h.inStep bot, Option.isSome_iff_exists]
    exact exists_congr fun seen => h.lastStop bot seen
  · intro call gen reading robot payload hrobot hflagged hok
    have hok : (callTool F iso fresh m.gate gen reading call).2 = .ok payload :=
      Option.some.inj hok
    exact not_mem_emergency_of_ok hrobot hok hflagged

/-- A robot that stops at the start is still flagged at the end of the window, when it is refused a
shelf, and no longer after the first sweep past it. -/
theorem emergency_mirror_stop_and_clear :
    let M := machine (.exact ℚ) (fun _ => none) .default .default
    let stop : List (Event ℚ) := [.stopSignal "bot1" 0, .sweep 1]
    let reading : Reading ℚ :=
      ⟨.ok (.dict [("robots", .dict [("bot1", .dict [("battery", .int 80)])])]), .fin 1⟩
    (M.run init stop).gate.emergency = {"bot1"} ∧
      (M.run init (stop ++ [.sweep (11 / 10)])).gate.emergency = ∅ ∧
      ∀ payload, (M.step (M.run init stop) (.call
        (.dispatchTask (some "bot1") none (some "shelf_1") none "deliver" none)
        (.ok ⟨none, 1⟩) reading)).2 ≠ some (.ok payload) := by
  intro M stop reading
  have h := emergency_mirror (.exact ℚ) (fun _ => none) .default .default stop
  refine ⟨by decide +kernel, by decide +kernel, ?_⟩
  intro payload
  exact h.2.2 _ _ _ "bot1" payload rfl (by decide +kernel)

end Runs

end EmergencyLevelMirror

end MiniatureWarehouse
