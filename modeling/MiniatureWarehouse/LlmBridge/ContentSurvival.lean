import MiniatureWarehouse.LlmBridge.Scheduler

/-!
# What a cycle survives

The content of the assistant message is text from a model.  It is decoded, its blank locations are
filled in, and it is validated; whatever fails on the way ends the cycle without a dispatch and the
commander goes on.  The calls that are made are those of the validated command, in order, up to the
first one that raises.

The state file is read outside of all that.  A file that does not decode or does not validate
raises before the model is asked, by the contract of the builder.
-/

namespace MiniatureWarehouse

namespace LlmBridge

namespace BridgeScheduler

section Dispatch

variable {α σ : Type} {execute : ToolExecutor α σ}

/-- The calls of a command, in the order they are made. -/
def callsOf (command : Command α) : List (ToolCall α) :=
  command.commands.map commandItemToToolCall ++
    match command.startNegotiation with
    | none => []
    | some _ => [.passive]

/-- The last call that was made raised the exception. -/
def RaisedBy (execute : ToolExecutor α σ) (gen : ℤ) (calls : List (ToolCall α)) (e : PyErr) :
    Prop :=
  ∃ call, calls.getLast? = some call ∧ ∃ tools, (execute gen tools call).2 = .error e

/-- The loop makes the calls of its items, and nothing but one of them makes it fail. -/
lemma dispatchItems_spec {gen : ℤ} {items : List (CommandItem α)} {s s' : BridgeScheduler α}
    {tools tools' : σ} {calls : List (ToolCall α)} {result : Except PyErr Unit}
    (hr : dispatchItems execute gen items s tools = (s', tools', calls, result)) :
    calls <+: items.map commandItemToToolCall ∧
      (result = .ok () → calls = items.map commandItemToToolCall) ∧
      ∀ e, result = .error e → RaisedBy execute gen calls e := by
  induction items generalizing s tools calls with
  | nil =>
    cases hr
    exact ⟨List.prefix_rfl, fun _ => rfl, nofun⟩
  | cons item items ih =>
    cases hanswer : execute gen tools (commandItemToToolCall item) with
    | mk next answer =>
      cases answer with
      | error e =>
        rw [dispatchItems_error items s hanswer] at hr
        cases hr
        refine ⟨⟨items.map commandItemToToolCall, rfl⟩, nofun, ?_⟩
        intro e' he
        refine ⟨commandItemToToolCall item, rfl, tools, ?_⟩
        rw [hanswer]
        exact congrArg Except.error (Except.error.inj he)
      | ok status =>
        cases hrest : dispatchItems execute gen items
            (((s.trackCurrentTask item status).consumePendingTask item status).record item status)
            next with
        | mk s'' rest =>
          obtain ⟨tools'', calls'', result''⟩ := rest
          rw [dispatchItems_ok hanswer hrest] at hr
          cases hr
          obtain ⟨hpre, hall, hraised⟩ := ih hrest
          rw [List.map_cons]
          refine ⟨(List.prefix_cons_inj _).mpr hpre, fun hok => by rw [hall hok], ?_⟩
          intro e he
          obtain ⟨call, hlast, hcall⟩ := hraised e he
          exact ⟨call, List.mem_getLast?_cons hlast, hcall⟩

/-- The same of a whole command. -/
lemma dispatchCommand_spec {gen : ℤ} {command : Command α} {s s' : BridgeScheduler α}
    {tools tools' : σ} {calls : List (ToolCall α)} {result : Except PyErr Unit}
    (hr : dispatchCommand execute gen command s tools = (s', tools', calls, result)) :
    calls <+: callsOf command ∧ ∀ e, result = .error e → RaisedBy execute gen calls e := by
  unfold dispatchCommand at hr
  unfold callsOf
  split at hr
  · rename_i hitems
    obtain ⟨hpre, -, hraised⟩ := dispatchItems_spec hitems
    cases hr
    exact ⟨hpre.trans (List.prefix_append _ _), fun e he => hraised e (by rw [he])⟩
  · rename_i made calls' hitems
    obtain ⟨-, hall, -⟩ := dispatchItems_spec hitems
    cases hnegotiation : command.startNegotiation with
    | none =>
      simp only [hnegotiation] at hr
      cases hr
      rw [hall rfl, List.append_nil]
      exact ⟨List.prefix_rfl, nofun⟩
    | some request =>
      simp only [hnegotiation] at hr
      cases hr
      rw [hall rfl]
      refine ⟨List.prefix_rfl, ?_⟩
      intro e he
      refine ⟨.passive, List.getLast?_concat, made, ?_⟩
      exact exceptMap_eq_error.mp he

end Dispatch

section Cycle

variable {α σ : Type} [Field α] [LinearOrder α] [IsStrictOrderedRing α] {F : FloatFormat α}
  {L : MathLib α} {W : Wiring α} {execute : ToolExecutor α σ}

variable (W execute) in
omit [IsStrictOrderedRing α] in
/-- How a cycle acts on a response: it is ignored, or it escapes because its decoding raised what
is not caught, or it is a command whose calls are made. -/
lemma actOnResponse_cases (s : BridgeScheduler α) (gen : ℤ) (response : Except PyErr (PyVal α))
    (tools : σ) :
    ((s.actOnResponse W execute gen response tools).outcome = .ok false ∧
      (s.actOnResponse W execute gen response tools).calls = []) ∨
    (∃ e, response = .error e ∧ e ≠ .valueError ∧
      (s.actOnResponse W execute gen response tools).calls = []) ∨
    ∃ v command, response = .ok v ∧ W.validateCommand v = some command ∧
      (s.actOnResponse W execute gen response tools).calls <+: callsOf command ∧
      ((s.actOnResponse W execute gen response tools).outcome = .ok true ∨
        ∃ e, (s.actOnResponse W execute gen response tools).outcome = .error e ∧
          RaisedBy execute gen (s.actOnResponse W execute gen response tools).calls e) := by
  unfold actOnResponse
  split
  · exact .inl ⟨rfl, rfl⟩
  · exact .inl ⟨rfl, rfl⟩
  · rename_i e hvalue htype
    exact .inr (.inl ⟨e, rfl, hvalue, rfl⟩)
  · rename_i v
    split
    · exact .inl ⟨rfl, rfl⟩
    · rename_i command hcommand
      split
      · rename_i e hdispatch
        obtain ⟨hpre, hraised⟩ := dispatchCommand_spec hdispatch
        exact .inr (.inr ⟨v, command, rfl, hcommand, hpre, .inr ⟨e, rfl, hraised e rfl⟩⟩)
      · rename_i hdispatch
        obtain ⟨hpre, -⟩ := dispatchCommand_spec hdispatch
        exact .inr (.inr ⟨v, command, rfl, hcommand, hpre, .inl rfl⟩)

omit [Field α] [LinearOrder α] [IsStrictOrderedRing α] in
/-- A content on which the decoder does not run out of stack gives a value or a `ValueError`. -/
lemma parseCommandContent_error {scan : JsonScan α} {text : String} {e : PyErr}
    (hscan : scan text ≠ .error .recursionError) (h : parseCommandContent scan text = .error e) :
    e = .valueError := by
  unfold parseCommandContent JsonScan.loads at h
  cases hraw : scan text with
  | error fault =>
    rw [hraw] at h
    cases fault with
    | valueError => exact (Except.error.inj h).symm
    | recursionError => exact absurd hraw hscan
  | ok raw =>
    rw [hraw] at h
    simp only [Except.map] at h
    split at h
    · rename_i heq
      cases heq
    · rename_i heq
      cases heq
    · cases h
    · exact (Except.error.inj h).symm

omit [IsStrictOrderedRing α] in
/-- The state file is corrupt: it cannot be read, or it holds a value that is no snapshot. -/
def Corrupt (W : Wiring α) (file : FileRead) : Prop :=
  (∃ e, file.read W.builder.scan = .error e) ∨
    ∃ raw, file.read W.builder.scan = .ok raw ∧ raw ≠ .null ∧ W.builder.validate raw = none

variable (F L) in
/-- A corrupt state file makes the cycle raise, whatever the model would have answered. -/
lemma runCycle_corrupt {file : FileRead} (h : Corrupt W file) (s : BridgeScheduler α) (tools : σ) :
    ∃ e, ∀ complete, s.runCycle F L W execute tools ⟨file, complete⟩ =
      ⟨s.bump, tools, [], .error e⟩ := by
  have hbuild : ∃ e, ∀ turn gen history pending current,
      W.builder.build F L file turn gen history pending current = .error e := by
    unfold SituationBuilder.build
    rcases h with ⟨e, he⟩ | ⟨raw, hraw, hnull, hinvalid⟩
    · exact ⟨e, fun _ _ _ _ _ => by rw [he]⟩
    · refine ⟨.valueError, fun _ _ _ _ _ => ?_⟩
      rw [hraw]
      cases raw with
      | null => exact absurd rfl hnull
      | bool | int | float | str | list | dict => simp only [hinvalid]
  obtain ⟨e, he⟩ := hbuild
  refine ⟨e, fun complete => ?_⟩
  simp only [runCycle, he]

variable (F L W execute) in
/-- **What a cycle survives.**  From a readable state file, and with any content on which the
decoder does not run out of stack, a cycle returns a boolean, or what one of the tools raised.  A
corrupt state file raises before the model is asked and before anything is dispatched.  In any case
the calls that are made are the first calls of a command the content was decoded and validated as. -/
theorem cycle_survives_content (s : BridgeScheduler α) (tools : σ) (i : CycleInput α) :
    let r := s.runCycle F L W execute tools i
    (W.builder.Readable F i.state →
      (∀ situation text, i.complete situation = .content text →
        W.builder.scan text ≠ .error .recursionError) →
      (∃ b, r.outcome = .ok b) ∨
        ∃ e, r.outcome = .error e ∧ RaisedBy execute (s.currentGen + 1) r.calls e) ∧
    (Corrupt W i.state → ∃ e, ∀ complete,
      s.runCycle F L W execute tools ⟨i.state, complete⟩ = ⟨s.bump, tools, [], .error e⟩) ∧
    (r.calls ≠ [] → ∃ situation text v command, i.complete situation = .content text ∧
      parseCommandContent W.builder.scan text = .ok v ∧ W.validateCommand v = some command ∧
      r.calls <+: callsOf command) := by
  intro r
  refine ⟨?_, fun h => runCycle_corrupt F L h s tools, ?_⟩
  · intro hreadable hscan
    obtain ⟨built, hbuilt⟩ := hreadable.build F L (s.turn + 1) (s.currentGen + 1) s.history
      s.pendingTasks s.currentTasks
    rcases s.runCycle_cases F L execute tools i with
      ⟨e, hbuild, -⟩ | ⟨s', -, -, heq | ⟨situation, text, htext, heq⟩⟩
    · rw [hbuilt] at hbuild
      cases hbuild
    · exact .inl ⟨false, by rw [show r = _ from heq]⟩
    · rw [show r = _ from heq]
      rcases s'.actOnResponse_cases W execute (s.currentGen + 1)
        (parseCommandContent W.builder.scan text) tools with
        ⟨hfalse, -⟩ | ⟨e, he, hne, -⟩ | ⟨v, command, -, -, -, htrue | hraised⟩
      · exact .inl ⟨false, hfalse⟩
      · exact absurd (parseCommandContent_error (hscan situation text htext) he) hne
      · exact .inl ⟨true, htrue⟩
      · exact .inr hraised
  · intro hcalls
    rcases s.runCycle_cases F L execute tools i with
      ⟨e, -, heq⟩ | ⟨s', -, -, heq | ⟨situation, text, htext, heq⟩⟩
    · exact absurd (by rw [show r = _ from heq]) hcalls
    · exact absurd (by rw [show r = _ from heq]) hcalls
    · rw [show r = _ from heq] at hcalls ⊢
      rcases s'.actOnResponse_cases W execute (s.currentGen + 1)
        (parseCommandContent W.builder.scan text) tools with
        ⟨-, hnone⟩ | ⟨e, -, -, hnone⟩ | ⟨v, command, hv, hcommand, hpre, -⟩
      · exact absurd hnone hcalls
      · exact absurd hnone hcalls
      · exact ⟨situation, text, v, command, htext, hv, hcommand, hpre⟩

end Cycle

end BridgeScheduler

/-- A state file that holds some other document raises. -/
theorem run_cycle_raises_on_corrupt_state :
    ((BridgeScheduler.init []).runCycle (.exact ℚ) .rational twoTextsWiring
      (scripted fun _ => .ok .ok) 0
      ⟨.text navigateText, fun _ => .content navigateText⟩).outcome = .error .valueError := by
  decide

lemma scan_emptyFleetText :
    twoTextsScan emptyFleetText = .ok (.dict [("timestamp", .str ""), ("robots", .dict [])]) :=
  if_pos rfl

lemma scan_navigateText : twoTextsScan navigateText ≠ .error .recursionError := by
  have hne : navigateText ≠ emptyFleetText := by decide
  unfold twoTextsScan
  rw [if_neg hne, if_pos rfl]
  nofun

lemma readable_emptyFleetText :
    twoTextsWiring.builder.Readable (.exact ℚ) (.text emptyFleetText) := by
  have hread : FileRead.read twoTextsScan (.text emptyFleetText) =
      .ok (.dict [("timestamp", .str ""), ("robots", .dict [])]) := by
    simp only [FileRead.read, JsonScan.loads, scan_emptyFleetText]
    rfl
  refine ⟨_, hread, .inr ⟨⟨"", .empty⟩, rfl, ?_, fun _ _ => rfl⟩⟩
  intro e he
  exact absurd he List.not_mem_nil

theorem cycle_survives_content_navigate :
    let r := (BridgeScheduler.init []).runCycle (.exact ℚ) .rational twoTextsWiring
      (scripted fun _ => .ok .ok) 0 ⟨.text emptyFleetText, fun _ => .content navigateText⟩
    (∃ b, r.outcome = .ok b) ∨
      ∃ e, r.outcome = .error e ∧
        BridgeScheduler.RaisedBy (scripted fun _ => .ok .ok) 1 r.calls e := by
  refine (BridgeScheduler.cycle_survives_content _ _ _ _ _ _ _).1 readable_emptyFleetText ?_
  intro situation text htext
  cases htext
  exact scan_navigateText

end LlmBridge

end MiniatureWarehouse
