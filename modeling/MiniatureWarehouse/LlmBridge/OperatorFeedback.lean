import MiniatureWarehouse.Framework.Runs
import MiniatureWarehouse.Framework.Text
import MiniatureWarehouse.LlmBridge.DecisionNotice
import Mathlib.Data.Finset.Basic

/-!
# The operator feedback node

Subscription callbacks decode notices and append them to a queue; one worker thread takes them off
and hands each to the feedback box, which filters it, renders it, delivers it to the sinks and
writes an audit record.  The callbacks, the registration of live commands, the shutdown and the
worker run in threads of their own, so the model is a machine whose every input is one atomic step
of one of them.

The worker waits for a wake-up or for a timeout, whichever comes first, so a wait may end at any
time and the wake event is left out.  How a value that is no text is written by `str()` is a
parameter.
-/

namespace MiniatureWarehouse

namespace OperatorFeedback

section Filter

variable {α : Type} [Field α] [LinearOrder α]

/-! ## The scope filter -/

/-- What a set sees of a member: the value of a number, whatever its type.  Every `NaN` of the
decoder is the same object, and so the same member. -/
inductive Hashed (α : Type)
  | none
  | text (s : String)
  | number (x : PyFloat α)
  deriving DecidableEq

/-- A value that can be a member of a set; a container cannot. -/
def hashed? : PyVal α → Option (Hashed α)
  | .null => some .none
  | .str s => some (.text s)
  | .bool b => some (.number (.fin (if b then 1 else 0)))
  | .int i => some (.number (.fin i))
  | .float x => some (.number x)
  | .list _ | .dict _ => none

/-- The correlation of a notice: the run, the generation, the robot, the box and the code. -/
structure Key (α : Type) where
  runId : Hashed α
  genId : ℤ
  robot : Hashed α
  box : Hashed α
  reasonCode : Hashed α
  deriving DecidableEq

/-- The correlation of an event for a generation, if it can be a member of a set. -/
def DecisionEvent.key? (e : DecisionEvent (PyVal α)) (gen : ℤ) : Option (Key α) := do
  let runId ← hashed? e.runId
  let robot ← hashed? e.robot
  let box ← hashed? e.box
  let reasonCode ← hashed? e.reasonCode
  return ⟨runId, gen, robot, box, reasonCode⟩

omit [Field α] [LinearOrder α] in
/-- `v in texts` for a set of texts. -/
def isOneOf (texts : List String) : PyVal α → Except PyErr Bool
  | .str s => .ok (texts.contains s)
  | .list _ | .dict _ => .error .typeError
  | _ => .ok false

/-- `SPEAKABLE_DECISIONS`. -/
def speakableDecisions : List String := ["rejected", "needs_clarification", "emergency_stop"]

/-- `OFF_WIRE_SPEAKABLE_DECISIONS`. -/
def offWireSpeakableDecisions : List String := ["emergency_stop"]

/-- `ScopeFilter`: the live commands, and what was spoken for. -/
structure ScopeFilter (α : Type) where
  live : Finset ℤ
  spoken : List (Key α)

/-- `ScopeFilter.classify`: nothing to speak, or the reason to stay silent. -/
def ScopeFilter.classify (s : ScopeFilter α) (e : DecisionEvent (PyVal α)) :
    Except PyErr (ScopeFilter α × Option String) :=
  match isOneOf speakableDecisions e.decision with
  | .error err => .error err
  | .ok false => .ok (s, some "non_speakable_decision")
  | .ok true =>
    match e.genId with
    | none => .ok (s, some "uncorrelated_autonomous")
    | some gen =>
      if gen ∉ s.live then .ok (s, some "uncorrelated_autonomous")
      else
        match e.key? gen with
        | none => .error .typeError
        | some key =>
          if key ∈ s.spoken then .ok (s, some "duplicate_suppressed")
          else .ok ({ s with spoken := s.spoken ++ [key] }, none)

end Filter

/-! ## The text of a notice -/

section Render

variable {α : Type} [Field α] [LinearOrder α] (pyStr : PyVal α → String)

omit [Field α] [LinearOrder α] in
/-- `f"{v}"`. -/
def written : PyVal α → String
  | .str s => s
  | v => pyStr v

/-- `f"{v or default}"`. -/
def writtenOr (v : PyVal α) (default : String) : String :=
  if WebBridge.truthy v then written pyStr v else default

/-- `_source_decision_ref`, and `_ref` of the box. -/
def sourceDecisionRef (e : DecisionEvent (PyVal α)) : String :=
  let gen := e.genId.elim "-" toString
  writtenOr pyStr e.runId "-" ++ "/" ++ gen ++ "/" ++ writtenOr pyStr e.robot "-" ++ "/" ++
    writtenOr pyStr e.box "-" ++ "/" ++ writtenOr pyStr e.reasonCode "-"

/-- `_BOX_LABEL_JA`. -/
def boxLabelJa : List (String × String) :=
  [("l3_validator", "指示内容の検査（L3 Validator）"), ("navigation", "経路計画（Navigation）"),
    ("governance", "実行ガバナンス（Policy Gate）"), ("traffic", "通行管理（Traffic）"),
    ("safety", "安全監視（Emergency Guardian）"), ("model_adapter", "モデル応答（Model Adapter）"),
    ("input_context", "入力コンテキスト（Input Context）"), ("hardware", "ハードウェア（L0）")]

/-- `_REASON_PHRASE_JA`. -/
def reasonPhraseJa : List ((String × String) × String) :=
  [(("l3_validator", "UNKNOWN_ROBOT"), "指定されたロボットが見つからない"),
    (("l3_validator", "UNKNOWN_ACTION"), "指定された動作に対応していない"),
    (("l3_validator", "UNKNOWN_TARGET"), "対象が地図上の登録位置に見つからない"),
    (("l3_validator", "LOW_CONFIDENCE_TARGET"), "対象の確信度が低い"),
    (("l3_validator", "INVALID_AFTER_REFERENCE"), "後続タスクの参照が不正な"),
    (("l3_validator", "TASK_GRAPH_CYCLE"), "タスクの依存関係が循環している"),
    (("l3_validator", "CYCLE_STATE_STALE"), "参照した状態が古い"),
    (("l3_validator", "EMERGENCY_ACTIVE"), "非常停止が有効な"),
    (("l3_validator", "OPERATOR_CLARIFICATION_REQUESTED"), "オペレーターへの確認を要求した"),
    (("navigation", "no_path"), "目的地までの経路が見つからない"),
    (("governance", "battery_low"), "バッテリー残量が不足している"),
    (("safety", "emergency"), "非常停止が発生した")]

/-- `_closing_for_decision`. -/
def closingForDecision (decision : String) : String :=
  if decision = "emergency_stop" then "緊急停止しました。"
  else if decision = "needs_clarification" then "確認が必要です。"
  else "動かせません。"

/-- The label of a box, if it has one. -/
def boxLabel? : PyVal α → Option String
  | .str box => Dict.find boxLabelJa box
  | _ => none

/-- The phrase for a reason of a box, if there is one. -/
def reasonPhrase? : PyVal α → PyVal α → Option String
  | .str box, .str code => Dict.find reasonPhraseJa (box, code)
  | _, _ => none

/-- `render_ja`: the text, and whether it is the fallback. -/
def renderJa (e : DecisionEvent (PyVal α)) (detail : String) : String × Bool :=
  let who := writtenOr pyStr e.robot "ロボット"
  let supplement := if detail = "" then "" else "（" ++ detail ++ "）"
  match reasonPhrase? e.box e.reasonCode with
  | none =>
    let label := (boxLabel? e.box).getD (writtenOr pyStr e.box "不明な箱")
    (who ++ " への指示が、" ++ label ++ "（" ++ writtenOr pyStr e.reasonCode "不明な理由" ++
      "）の理由で実行できません。" ++ supplement, true)
  | some phrase =>
    let label := (boxLabel? e.box).getD (written pyStr e.box)
    (who ++ " への指示は、" ++ label ++ "で" ++ phrase ++ "ため、" ++
      closingForDecision (written pyStr e.decision) ++ supplement, false)

/-- The supplement of a notice; what is no text has nothing to strip. -/
def detailOf (e : DecisionEvent (PyVal α)) : Except PyErr String :=
  let source := if WebBridge.truthy e.messageForOperator then e.messageForOperator
    else if WebBridge.truthy e.reasonDetail then e.reasonDetail else .str ""
  match source with
  | .str s => .ok (String.ofList (Text.strip s.toList))
  | _ => .error .attributeError

/-- `severity_for_decision`. -/
def severityForDecision (decision : String) : String :=
  if decision = "emergency_stop" then "emergency"
  else if decision = "needs_clarification" then "warning" else "error"

/-- `OperatorNotice`. -/
structure OperatorNotice (α : Type) where
  box : PyVal α
  reasonCode : PyVal α
  locale : String
  text : String
  severity : String
  sourceDecisionRef : String
  fallback : Bool

/-- `build_notice`, of an event whose decision is speakable. -/
def buildNotice (e : DecisionEvent (PyVal α)) : Except PyErr (OperatorNotice α) :=
  (detailOf e).map fun detail =>
    { box := e.box, reasonCode := e.reasonCode, locale := "ja", text := (renderJa pyStr e detail).1,
      severity := severityForDecision (written pyStr e.decision),
      sourceDecisionRef := sourceDecisionRef pyStr e, fallback := (renderJa pyStr e detail).2 }

end Render

/-! ## The box -/

/-- `AuditRecord`. -/
structure AuditRecord where
  box : String
  stage : String
  decision : String
  reasonCode : String
  sourceDecisionRef : String
  text : String

/-- How the call of a sink ends: it returns, raises an `Exception`, or raises what is none, such
as a `SystemExit`. -/
inductive SinkEnd
  | returns
  | raises
  | exits
  deriving DecidableEq

/-- How the calls of the two sinks would end. -/
structure SinkEnds where
  primary : SinkEnd
  fallback : SinkEnd

/-- `_deliver`: the status and the failure reason; nothing where an exception comes through.  A
fallback sink is always configured, a primary one perhaps. -/
def deliver (hasPrimary : Bool) (ends : SinkEnds) : Option (String × String) :=
  match hasPrimary, ends.primary with
  | true, .returns => some ("spoken", "")
  | true, .exits => none
  | true, .raises =>
    match ends.fallback with
    | .returns => some ("fell_open", "tts_failed")
    | .raises => some ("fell_open", "sink_unavailable")
    | .exits => none
  | false, _ =>
    match ends.fallback with
    | .returns => some ("spoken", "")
    | .raises => some ("fell_open", "sink_unavailable")
    | .exits => none

/-- The record of a notice that was silenced. -/
def suppressedRecord (ref reason : String) : AuditRecord :=
  ⟨"l4_operator_feedback", "render", "suppressed", reason, ref, ""⟩

/-- The record of a notice that was delivered. -/
def deliveredRecord (ref text : String) (delivery : String × String) : AuditRecord :=
  ⟨"l4_operator_feedback", "speak", delivery.1, delivery.2, ref, text⟩

/-! ## The driver and its worker -/

section Worker

variable {α : Type}

/-- Where the worker is; the flag says whether it is in its final flush. -/
inductive Pc (α : Type)
  /-- About to look at the stop flag. -/
  | test
  /-- Waiting for a wake-up or the timeout. -/
  | waiting
  /-- About to take the next notice off the queue. -/
  | draining (final : Bool)
  /-- `notify` was called with the event. -/
  | classifying (final : Bool) (e : DecisionEvent (PyVal α))
  /-- The filter lets the event speak. -/
  | speaking (final : Bool) (e : DecisionEvent (PyVal α))
  /-- About to write the audit record of the event. -/
  | recording (final : Bool) (e : DecisionEvent (PyVal α)) (record : AuditRecord)
  /-- The thread has ended after its final flush. -/
  | done
  /-- The thread was ended by an exception it does not catch, while it had the event. -/
  | dead (e : DecisionEvent (PyVal α))

/-- `OperatorNoticeDriver` with its box and a started `DrainWorker`. -/
structure Driver (α : Type) where
  pending : List (DecisionEvent (PyVal α))
  scope : ScopeFilter α
  auditLog : List AuditRecord
  stopped : Bool
  pc : Pc α

/-- A driver whose worker was just started, with some live commands. -/
def Driver.started (live : Finset ℤ) : Driver α := ⟨[], ⟨live, []⟩, [], false, .test⟩

/-- One atomic step of one of the threads. -/
inductive Step
  /-- A payload of `/operator/notice`. -/
  | notice (raw : String)
  /-- A payload of `/emergency/event`. -/
  | emergency (raw : String)
  | registerLiveCommand (genId : Option ℤ)
  | retireCommand (genId : Option ℤ)
  | shutdown
  /-- The worker goes on; where it calls the sinks, this is how they would end. -/
  | work (ends : SinkEnds)

/-- What a step shows. -/
inductive Note (α : Type)
  /-- The ingress filter has let the event into the queue. -/
  | accepted (e : DecisionEvent (PyVal α))
  /-- `box.notify` is called with the event. -/
  | handed (e : DecisionEvent (PyVal α))
  /-- The filter has judged the event under these live commands. -/
  | judged (e : DecisionEvent (PyVal α)) (live : Finset ℤ)
  /-- The notice of the event goes to the sinks. -/
  | reached (e : DecisionEvent (PyVal α))
  /-- The audit record of the event is written. -/
  | audited (e : DecisionEvent (PyVal α)) (record : AuditRecord)

variable [Field α] [LinearOrder α] [FloorRing α] (parseInt : String → Option ℤ)
  (pyStr : PyVal α → String) (scan : JsonScan α) (hasPrimary : Bool)

/-- `enqueue_notice`: the event to append, when there is one.  An emergency is dropped, and what
the decoder or the look-up of the decision raises is raised. -/
def enqueueNotice (raw : String) : Except PyErr (Option (DecisionEvent (PyVal α))) :=
  match decodeNotice parseInt scan raw with
  | .error err => .error err
  | .ok none => .ok none
  | .ok (some e) =>
    (isOneOf offWireSpeakableDecisions e.decision).map fun offWire =>
      if offWire then none else some e

omit [Field α] [LinearOrder α] [FloorRing α] in
/-- `"" if v is None else str(v)`, of `payload.get(name)`. -/
def emergencyField (payload : List (String × PyVal α)) (name : String) : PyVal α :=
  match (Dict.find payload name).getD .null with
  | .null => .str ""
  | v => .str (written pyStr v)

omit [Field α] [LinearOrder α] [FloorRing α] in
/-- `emergency_event_to_decision`. -/
def emergencyEventToDecision (payload : List (String × PyVal α)) : DecisionEvent (PyVal α) where
  decision := .str "emergency_stop"
  box := .str "safety"
  reasonCode := .str "emergency"
  reasonDetail := emergencyField pyStr payload "type"
  messageForOperator := .str ""
  robot := emergencyField pyStr payload "robot"
  genId := none
  runId := .str ""
  stage := .str ""
  timestamp := emergencyField pyStr payload "timestamp"
  schemaVersion := .str ""

omit [Field α] [LinearOrder α] [FloorRing α] in
/-- `enqueue_emergency`. -/
def enqueueEmergency (raw : String) : Except PyErr (Option (DecisionEvent (PyVal α))) :=
  match scan.loads raw with
  | .error .valueError => .ok none
  | .error .recursionError => .error .recursionError
  | .ok (.dict payload) => .ok (some (emergencyEventToDecision pyStr payload))
  | .ok _ => .ok none

omit [Field α] [LinearOrder α] [FloorRing α] in
/-- `_enqueue` of what came out of the ingress. -/
def Driver.append (d : Driver α) :
    Except PyErr (Option (DecisionEvent (PyVal α))) → Driver α × Option (Note α)
  | .ok (some e) => ({ d with pending := d.pending ++ [e] }, some (.accepted e))
  | _ => (d, none)

omit [FloorRing α] in
/-- One step of the worker thread. -/
def Driver.work (d : Driver α) (ends : SinkEnds) : Driver α × Option (Note α) :=
  match d.pc with
  | .test => ({ d with pc := if d.stopped then .draining true else .waiting }, none)
  | .waiting => ({ d with pc := .draining false }, none)
  | .draining final =>
    match d.pending with
    | [] => ({ d with pc := if final then .done else .test }, none)
    | e :: pending => ({ d with pending := pending, pc := .classifying final e }, some (.handed e))
  | .classifying final e =>
    match d.scope.classify e with
    -- what `notify` raises is counted and logged
    | .error _ => ({ d with pc := .draining final }, some (.judged e d.scope.live))
    | .ok (scope, none) =>
      ({ d with scope := scope, pc := .speaking final e }, some (.judged e d.scope.live))
    | .ok (scope, some reason) =>
      ({ d with
          scope := scope
          pc := .recording final e (suppressedRecord (sourceDecisionRef pyStr e) reason) },
        some (.judged e d.scope.live))
  | .speaking final e =>
    match buildNotice pyStr e with
    | .error _ => ({ d with pc := .draining final }, none)
    | .ok notice =>
      match deliver hasPrimary ends with
      | none => ({ d with pc := .dead e }, some (.reached e))
      | some delivery =>
        ({ d with pc := .recording final e (deliveredRecord notice.sourceDecisionRef notice.text
              delivery) }, some (.reached e))
  | .recording final e record =>
    ({ d with auditLog := d.auditLog ++ [record], pc := .draining final },
      some (.audited e record))
  | .done | .dead _ => (d, none)

/-- The node as a machine. -/
def driver : Machine (Driver α) Step (Option (Note α)) where
  step d
    | .notice raw => d.append (enqueueNotice parseInt scan raw)
    | .emergency raw => d.append (enqueueEmergency pyStr scan raw)
    | .registerLiveCommand genId =>
      ({ d with scope := { d.scope with live := d.scope.live ∪ genId.toFinset } }, none)
    | .retireCommand genId =>
      ({ d with scope := { d.scope with live := d.scope.live \ genId.toFinset } }, none)
    | .shutdown => ({ d with stopped := true }, none)
    | .work ends => d.work pyStr hasPrimary ends

end Worker

end OperatorFeedback

end MiniatureWarehouse
