import MiniatureWarehouse.Framework.JsonRoundTrip
import MiniatureWarehouse.Framework.StableSort
import MiniatureWarehouse.WebBridge.ObsEvent
import Mathlib.Algebra.Order.Floor.Ring
import Mathlib.Data.String.Basic

/-!
# Decision notices on the wire

A gate hands a decision event to the publisher, which writes it as the text of
`/operator/notice`; the operator feedback node reads the text back.  The event of a gate has texts
for its fields, as its annotations say.  What comes out of the decoder has whatever values the text
held, because the decoder coerces nothing but the generation and the missing values.

The two sides have their own rules for the schema.  The publisher fills in the version only where
the event has none, and the decoder drops every family but its own; `round_trip_iff` says that this
is the only place where they part.
-/

namespace MiniatureWarehouse

namespace OperatorFeedback

/-- `DecisionEvent`, with fields of any type. -/
structure DecisionEvent (τ : Type) where
  decision : τ
  box : τ
  reasonCode : τ
  reasonDetail : τ
  messageForOperator : τ
  robot : τ
  genId : Option ℤ
  runId : τ
  stage : τ
  timestamp : τ
  schemaVersion : τ

/-- The same event with every field written in another way. -/
def DecisionEvent.map {τ σ : Type} (f : τ → σ) (e : DecisionEvent τ) : DecisionEvent σ where
  decision := f e.decision
  box := f e.box
  reasonCode := f e.reasonCode
  reasonDetail := f e.reasonDetail
  messageForOperator := f e.messageForOperator
  robot := f e.robot
  genId := e.genId
  runId := f e.runId
  stage := f e.stage
  timestamp := f e.timestamp
  schemaVersion := f e.schemaVersion

/-- `WIRE_NOTICE_DECISIONS`. -/
def wireNoticeDecisions : List String := ["rejected", "needs_clarification"]

/-- `SCHEMA_VERSION_V0`. -/
def schemaVersionV0 : String := "operator_notice.v0"

/-- `SCHEMA_PREFIX`. -/
def schemaPrefix : String := "operator_notice."

/-! ## The publisher -/

section Publisher

variable {α : Type} (T : Json.FloatText α)

/-- `to_v0_payload`. -/
def toV0Payload (e : DecisionEvent String) : List (String × PyVal α) :=
  [("schema_version", .str (if e.schemaVersion = "" then schemaVersionV0 else e.schemaVersion)),
    ("timestamp", .str e.timestamp), ("run_id", .str e.runId), ("gen_id", e.genId.elim .null .int),
    ("robot", .str e.robot), ("box", .str e.box), ("stage", .str e.stage),
    ("decision", .str e.decision), ("reason_code", .str e.reasonCode),
    ("reason_detail", .str e.reasonDetail)] ++
  if e.messageForOperator = "" then []
  else [("message_for_operator", .str e.messageForOperator)]

/-- `encode_notice`: the names of the payload are written in their order. -/
def encodeNotice (e : DecisionEvent String) : String :=
  String.ofList (Json.dumps T (.dict (sortBy Prod.fst (toV0Payload e))))

/-- `publish_event`: what is published, when the decision may ride this wire. -/
def publishEvent (e : DecisionEvent String) : Option String :=
  if e.decision ∈ wireNoticeDecisions then some (encodeNotice T e) else none

end Publisher

/-! ## The decoder -/

section Decoder

variable {α : Type} [Field α] [LinearOrder α] [FloorRing α] (parseInt : String → Option ℤ)

/-- `int(v)`; `parseInt` reads a text. -/
def toInt : PyVal α → Except PyErr ℤ
  | .int i => .ok i
  | .bool b => .ok b.toInt
  | .float (.fin x) => .ok (if 0 ≤ x then ⌊x⌋ else ⌈x⌉)
  | .float .nan => .error .valueError
  | .float _ => .error .overflowError
  | .str s => match parseInt s with
    | some i => .ok i
    | none => .error .valueError
  | _ => .error .typeError

omit [Field α] [LinearOrder α] [FloorRing α] in
/-- An infinite float, which is no integer. -/
def isInfinite : PyVal α → Bool
  | .float .posInf | .float .negInf => true
  | _ => false

/-- `int(v)` overflows at an infinite float, and is refused for a reason the callers expect
otherwise. -/
lemma toInt_cases (v : PyVal α) :
    (isInfinite v = true ∧ toInt parseInt v = .error .overflowError) ∨
      (isInfinite v = false ∧ ((∃ i, toInt parseInt v = .ok i) ∨
        toInt parseInt v = .error .typeError ∨ toInt parseInt v = .error .valueError)) := by
  cases v with
  | null => exact .inr ⟨rfl, .inr (.inl rfl)⟩
  | bool b => exact .inr ⟨rfl, .inl ⟨_, rfl⟩⟩
  | int i => exact .inr ⟨rfl, .inl ⟨_, rfl⟩⟩
  | float x =>
    cases x with
    | fin x => exact .inr ⟨rfl, .inl ⟨_, rfl⟩⟩
    | nan => exact .inr ⟨rfl, .inr (.inr rfl)⟩
    | posInf => exact .inl ⟨rfl, rfl⟩
    | negInf => exact .inl ⟨rfl, rfl⟩
  | str s =>
    refine .inr ⟨rfl, ?_⟩
    cases hs : parseInt s with
    | none => exact .inr (.inr (by simp only [toInt, hs]))
    | some i => exact .inl ⟨i, by simp only [toInt, hs]⟩
  | list xs => exact .inr ⟨rfl, .inr (.inl rfl)⟩
  | dict es => exact .inr ⟨rfl, .inr (.inl rfl)⟩

/-- The generation of a payload: whatever cannot be read as an integer counts as missing, but for
what is too large. -/
def payloadGen (payload : List (String × PyVal α)) : Except PyErr (Option ℤ) :=
  match (Dict.find payload "gen_id").getD .null with
  | .null => .ok none
  | v => match toInt parseInt v with
    | .ok i => .ok (some i)
    | .error .typeError | .error .valueError => .ok none
    | .error e => .error e

omit [Field α] [LinearOrder α] [FloorRing α] in
/-- A text field of a payload; a missing one and a null are the empty text. -/
def payloadField (payload : List (String × PyVal α)) (name : String) : PyVal α :=
  match (Dict.find payload name).getD .null with
  | .null => .str ""
  | v => v

/-- `DecisionEvent.from_payload`; an event cannot be built without a decision. -/
def fromPayload (payload : List (String × PyVal α)) :
    Except PyErr (DecisionEvent (PyVal α)) := do
  let genId ← payloadGen parseInt payload
  if (Dict.find payload "decision").isNone then .error .typeError
  else
    let field := payloadField payload
    .ok { decision := field "decision", box := field "box", reasonCode := field "reason_code",
          reasonDetail := field "reason_detail",
          messageForOperator := field "message_for_operator", robot := field "robot",
          genId := genId, runId := field "run_id", stage := field "stage",
          timestamp := field "timestamp", schemaVersion := field "schema_version" }

omit [FloorRing α] in
/-- A declared schema of another family.  Of the values that are no text, none is written with the
prefix. -/
def foreignSchema : PyVal α → Bool
  | .str s => s ≠ "" && !schemaPrefix.toList.isPrefixOf s.toList
  | v => WebBridge.truthy v

/-- `decode_notice`.  Text nested too deeply and a generation that is too large raise out of it. -/
def decodeNotice (scan : JsonScan α) (raw : String) :
    Except PyErr (Option (DecisionEvent (PyVal α))) :=
  match scan.loads raw with
  | .error .valueError => .ok none
  | .error .recursionError => .error .recursionError
  | .ok (.dict payload) =>
    if foreignSchema ((Dict.find payload "schema_version").getD .null) then .ok none
    else match fromPayload parseInt payload with
      | .ok e => .ok (some e)
      | .error .typeError => .ok none
      | .error e => .error e
  | .ok _ => .ok none

end Decoder

/-! ## The round trip -/

section RoundTrip

variable {α : Type}

/-- The names of a payload are distinct. -/
lemma nodup_toV0Payload (e : DecisionEvent String) :
    ((toV0Payload e : List (String × PyVal α)).map Prod.fst).Nodup := by
  unfold toV0Payload
  split_ifs <;> simp

lemma perm_payload (e : DecisionEvent String) :
    (sortBy Prod.fst (toV0Payload e : List (String × PyVal α))).Perm (toV0Payload e) :=
  perm_sortBy _ _

/-- Sorting the names changes no lookup. -/
lemma find_sortBy_payload (e : DecisionEvent String) :
    Dict.find (sortBy Prod.fst (toV0Payload e : List (String × PyVal α))) =
      Dict.find (toV0Payload e) :=
  (Dict.find_eq_of_perm (perm_payload e).symm (nodup_toV0Payload e)).symm

/-- No value of a payload is a container. -/
lemma repeatsName_of_mem (e : DecisionEvent String) :
    ∀ entry ∈ (toV0Payload e : List (String × PyVal α)), entry.2.repeatsName = false := by
  have hgen : (e.genId.elim .null .int : PyVal α).repeatsName = false := by
    cases e.genId <;> rfl
  unfold toV0Payload
  rw [List.forall_mem_append]
  constructor
  · simp only [List.forall_mem_cons]
    exact ⟨rfl, rfl, rfl, hgen, rfl, rfl, rfl, rfl, rfl, rfl, fun x hx => absurd hx List.not_mem_nil⟩
  · split_ifs
    · exact fun x hx => absurd hx List.not_mem_nil
    · rw [List.forall_mem_singleton]
      rfl

/-- A payload uses every name once, at every depth. -/
lemma repeatsName_payload (e : DecisionEvent String) :
    (PyVal.dict (sortBy Prod.fst (toV0Payload e : List (String × PyVal α)))).repeatsName =
      false := by
  have hnodup := ((perm_payload (α := α) e).map Prod.fst).nodup_iff.mpr (nodup_toV0Payload e)
  rw [PyVal.repeatsName, Bool.or_eq_false_iff, Json.repeatsNameEntries_eq_false]
  refine ⟨fun entry hentry => ?_, by simpa using hnodup⟩
  exact repeatsName_of_mem e entry ((perm_payload e).mem_iff.mp hentry)

/-- `decode_notice` is handed the payload of the publisher. -/
lemma loads_encodeNotice (T : Json.FloatText α) (e : DecisionEvent String) :
    (Json.scan T).loads (encodeNotice T e) = .ok (.dict (sortBy Prod.fst (toV0Payload e))) :=
  Json.loads_dumps T (repeatsName_payload e)

/-- The event with its schema version filled in. -/
def fillSchema (e : DecisionEvent String) : DecisionEvent String :=
  { e with schemaVersion := if e.schemaVersion = "" then schemaVersionV0 else e.schemaVersion }

/-- The schema versions of this family, or none. -/
def OwnSchema (schema : String) : Prop := schema = "" ∨ schemaPrefix.toList <+: schema.toList

variable [Field α] [LinearOrder α] [FloorRing α] (parseInt : String → Option ℤ)

omit [FloorRing α] in
/-- What the publisher stamps is foreign to the decoder exactly when the event's own schema is. -/
lemma foreignSchema_stamped (e : DecisionEvent String) :
    foreignSchema (.str (fillSchema e).schemaVersion : PyVal α) = false ↔
      OwnSchema e.schemaVersion := by
  unfold fillSchema OwnSchema
  by_cases hempty : e.schemaVersion = ""
  · simp only [hempty, if_true, true_or, iff_true]
    have hown : (decide (schemaVersionV0 ≠ "") &&
        !schemaPrefix.toList.isPrefixOf schemaVersionV0.toList) = false := by decide
    exact hown
  · simp [foreignSchema, hempty]

/-- The payload of an event is read back as the event. -/
lemma fromPayload_toV0Payload (e : DecisionEvent String) :
    fromPayload parseInt (sortBy Prod.fst (toV0Payload e : List (String × PyVal α))) =
      .ok ((fillSchema e).map .str) := by
  have hgen : payloadGen parseInt (sortBy Prod.fst (toV0Payload e : List (String × PyVal α))) =
      .ok e.genId := by
    unfold payloadGen
    rw [find_sortBy_payload]
    cases hid : e.genId <;> simp [toV0Payload, Dict.find, hid, toInt]
  have hfield : payloadField (sortBy Prod.fst (toV0Payload e : List (String × PyVal α))) =
      payloadField (toV0Payload e) := by
    funext name
    unfold payloadField
    rw [find_sortBy_payload]
  unfold fromPayload
  rw [hgen, hfield, find_sortBy_payload]
  by_cases hmessage : e.messageForOperator = ""
  · simp [toV0Payload, payloadField, Dict.find, hmessage, fillSchema, DecisionEvent.map]
    rfl
  · simp [toV0Payload, payloadField, Dict.find, hmessage, fillSchema, DecisionEvent.map]
    rfl

/-- The decoder reads a published event back, unless it drops it for its schema. -/
lemma decodeNotice_encodeNotice (T : Json.FloatText α) (e : DecisionEvent String) :
    decodeNotice parseInt (Json.scan T) (encodeNotice T e) =
      if foreignSchema (.str (fillSchema e).schemaVersion : PyVal α) then .ok none
      else .ok (some ((fillSchema e).map .str)) := by
  have hschema : (Dict.find (toV0Payload e : List (String × PyVal α)) "schema_version").getD .null =
      .str (fillSchema e).schemaVersion := rfl
  unfold decodeNotice
  rw [loads_encodeNotice]
  simp only [find_sortBy_payload, hschema, fromPayload_toV0Payload]

/-- The decoder yields for what was published the event with its schema version filled in. -/
def RoundTrips (T : Json.FloatText α) (e : DecisionEvent String) : Prop :=
  ∃ raw, publishEvent T e = some raw ∧
    decodeNotice parseInt (Json.scan T) raw = .ok (some ((fillSchema e).map .str))

/-- **A notice survives the wire exactly under its own schema**: an event whose decision may ride
the wire is read back if and only if it declares no schema, or one of the family. -/
theorem round_trip_iff (T : Json.FloatText α) (e : DecisionEvent String)
    (hwire : e.decision ∈ wireNoticeDecisions) :
    RoundTrips parseInt T e ↔ OwnSchema e.schemaVersion := by
  have hpublish : publishEvent T e = some (encodeNotice T e) := if_pos hwire
  rw [← foreignSchema_stamped (α := α)]
  unfold RoundTrips
  rw [hpublish]
  simp only [Option.some.injEq, exists_eq_left', decodeNotice_encodeNotice]
  cases foreignSchema (.str (fillSchema e).schemaVersion : PyVal α) with
  | true => simp
  | false => simp

/-! ### Two rejects -/

/-- A reject of the gate for the first robot, under a schema version. -/
def gateReject (schema : String) : DecisionEvent String where
  decision := "rejected"
  box := "governance"
  reasonCode := "duplicate_destination"
  reasonDetail := ""
  messageForOperator := ""
  robot := "bot1"
  genId := some 7
  runId := "run_1"
  stage := "policy_gate"
  timestamp := ""
  schemaVersion := schema

/-- A reject that declares no schema survives the wire. -/
theorem round_trip_undeclared :
    RoundTrips (fun _ => none) Json.FloatText.rational (gateReject "") := by
  refine (round_trip_iff (fun _ => none) Json.FloatText.rational (gateReject "") ?_).mpr (.inl rfl)
  exact List.mem_cons_self

/-- A reject that carries the schema of a decision event is published and then dropped. -/
theorem foreign_reject_vanishes :
    (publishEvent Json.FloatText.rational (gateReject "decision_event.v1")).isSome = true ∧
      ¬ RoundTrips (fun _ => none) Json.FloatText.rational (gateReject "decision_event.v1") := by
  refine ⟨rfl, fun h => ?_⟩
  obtain ⟨raw, hpublish, hdecode⟩ := h
  obtain rfl : encodeNotice Json.FloatText.rational (gateReject "decision_event.v1") = raw :=
    Option.some.inj hpublish
  rw [decodeNotice_encodeNotice] at hdecode
  have hforeign : foreignSchema (.str (fillSchema (gateReject "decision_event.v1")).schemaVersion :
      PyVal ℚ) = true := by decide
  rw [if_pos hforeign] at hdecode
  cases hdecode

end RoundTrip

end OperatorFeedback

end MiniatureWarehouse
