import MiniatureWarehouse.Framework.JsonRoundTrip

/-!
# The event envelope of the web gateway

Every inbound message becomes one envelope.  The payload is the decoded JSON object as it came; a
message that is no JSON object keeps its text and becomes an envelope of kind `malformed`.
-/

namespace MiniatureWarehouse

namespace WebBridge

/-- `SCHEMA_VERSION`. -/
def schemaVersion : ℤ := 1

/-- `KIND_BY_TOPIC`. -/
def kindByTopic : String → Option String
  | "/state_cache/snapshot" => some "snapshot"
  | "/llm/command" => some "command"
  | "/llm/reasoning" => some "reasoning"
  | "/character/speech" => some "speech"
  | "/negotiation/start" => some "nego_start"
  | "/negotiation/turn" => some "turn_baton"
  | "/negotiation/proposal" => some "proposal"
  | "/negotiation/abort" => some "abort"
  | "/emergency/event" => some "emergency"
  | _ => none

/-- `KIND_MALFORMED`. -/
def kindMalformed : String := "malformed"

/-- The one topic of `TEXT_TOPICS`, with the kind of its messages. -/
def textTopic : String := "/llm/reasoning"

/-- The envelope, with its fields in the order in which they are written. -/
structure ObsEvent (α : Type) where
  seq : ℕ
  receiveTs : PyFloat α
  sourceTopic : String
  kind : String
  runId : Option String
  genId : Option ℤ
  negotiationId : Option String
  robot : Option String
  traceId : Option String
  personaSource : Option String
  payload : List (String × PyVal α)

namespace ObsEvent

variable {α : Type}

/-- A value or `None`. -/
def optional {β : Type} (f : β → PyVal α) : Option β → PyVal α
  | none => .null
  | some x => f x

/-- The envelope as the dictionary the code passes around. -/
def toVal (e : ObsEvent α) : PyVal α :=
  .dict [("schema_version", .int schemaVersion), ("seq", .int e.seq),
    ("receive_ts", .float e.receiveTs), ("source_topic", .str e.sourceTopic), ("kind", .str e.kind),
    ("run_id", optional .str e.runId), ("gen_id", optional .int e.genId),
    ("negotiation_id", optional .str e.negotiationId), ("robot", optional .str e.robot),
    ("trace_id", optional .str e.traceId), ("persona_source", optional .str e.personaSource),
    ("payload", .dict e.payload)]

/-- The dictionary of an envelope uses every name once when that of its payload does. -/
lemma repeatsName_toVal (e : ObsEvent α) (h : (PyVal.dict e.payload).repeatsName = false) :
    e.toVal.repeatsName = false := by
  have hoptional : ∀ {β : Type} (f : β → PyVal α) (x : Option β),
      (∀ y, (f y).repeatsName = false) → (optional f x).repeatsName = false := by
    intro β f x hf
    cases x with
    | none => rfl
    | some y => exact hf y
  unfold toVal
  rw [PyVal.repeatsName, Bool.or_eq_false_iff, Json.repeatsNameEntries_eq_false]
  refine ⟨?_, by simp⟩
  simp only [List.forall_mem_cons]
  exact ⟨rfl, rfl, rfl, rfl, rfl, hoptional _ _ fun _ => rfl, hoptional _ _ fun _ => rfl,
    hoptional _ _ fun _ => rfl, hoptional _ _ fun _ => rfl, hoptional _ _ fun _ => rfl,
    hoptional _ _ fun _ => rfl, h, fun x hx => absurd hx List.not_mem_nil⟩

end ObsEvent

section Normalize

variable {α : Type} [Zero α] [DecidableEq α]

/-- `bool(value)`. -/
def truthy : PyVal α → Bool
  | .null => false
  | .bool b => b
  | .int i => i ≠ 0
  | .float x => x ≠ .fin 0
  | .str s => s ≠ ""
  | .list xs => !xs.isEmpty
  | .dict es => !es.isEmpty

omit [Zero α] [DecidableEq α] in
/-- `_as_opt_str`, of `data.get(...)`. -/
def asOptStr : Option (PyVal α) → Option String
  | some (.str s) => some s
  | _ => none

omit [Zero α] [DecidableEq α] in
/-- `_extract_gen_id`. -/
def extractGenId (data : PyVal α) : Option ℤ :=
  match data.get? "gen_id" with
  | some (.int i) => some i
  | _ => none

/-- `_extract_robot`. -/
def extractRobot (data : PyVal α) : Option String :=
  match data.get? "robot" with
  | some v => if truthy v then asOptStr (some v) else asOptStr (data.get? "bot")
  | none => asOptStr (data.get? "bot")

/-- `to_obs_event`, of a text message.  Text nested too deeply raises out of it. -/
def toObsEvent (scan : JsonScan α) (sourceTopic raw : String) (seq : ℕ) (receiveTs : PyFloat α)
    (runId : Option String) : Except PyErr (ObsEvent α) :=
  let malformed : ObsEvent α :=
    ⟨seq, receiveTs, sourceTopic, kindMalformed, runId, none, none, none, none, none,
      [("raw", .str raw)]⟩
  if sourceTopic = textTopic then
    .ok ⟨seq, receiveTs, sourceTopic, "reasoning", runId, none, none, none, none, none,
      [("text", .str raw)]⟩
  else
    match scan.loads raw with
    | .error .valueError => .ok malformed
    | .error .recursionError => .error .recursionError
    | .ok (.dict es) =>
      match kindByTopic sourceTopic with
      | none => .ok malformed
      | some kind =>
        .ok ⟨seq, receiveTs, sourceTopic, kind, runId, extractGenId (.dict es),
          asOptStr ((PyVal.dict es).get? "negotiation_id"), extractRobot (.dict es), none, none, es⟩
    | .ok _ => .ok malformed

/-- What every envelope is: it carries the number it was given, and every name once. -/
lemma toObsEvent_spec {scan : JsonScan α} {sourceTopic raw : String} {seq : ℕ}
    {receiveTs : PyFloat α} {runId : Option String} {e : ObsEvent α}
    (h : toObsEvent scan sourceTopic raw seq receiveTs runId = .ok e) :
    e.seq = seq ∧ (PyVal.dict e.payload).repeatsName = false := by
  unfold toObsEvent at h
  dsimp only at h
  split_ifs at h
  · rw [← Except.ok.inj h]
    exact ⟨rfl, rfl⟩
  · cases hloads : scan.loads raw with
    | error err =>
      simp only [hloads] at h
      cases err with
      | valueError =>
        rw [← Except.ok.inj h]
        exact ⟨rfl, rfl⟩
      | recursionError => cases h
    | ok v =>
      simp only [hloads] at h
      rcases v with _ | b | i | x | s | xs | es
      · rw [← Except.ok.inj h]
        exact ⟨rfl, rfl⟩
      · rw [← Except.ok.inj h]
        exact ⟨rfl, rfl⟩
      · rw [← Except.ok.inj h]
        exact ⟨rfl, rfl⟩
      · rw [← Except.ok.inj h]
        exact ⟨rfl, rfl⟩
      · rw [← Except.ok.inj h]
        exact ⟨rfl, rfl⟩
      · rw [← Except.ok.inj h]
        exact ⟨rfl, rfl⟩
      · cases hkind : kindByTopic sourceTopic with
        | none =>
          simp only [hkind] at h
          rw [← Except.ok.inj h]
          exact ⟨rfl, rfl⟩
        | some kind =>
          simp only [hkind] at h
          rw [← Except.ok.inj h]
          exact ⟨rfl, Json.repeatsName_of_loads hloads⟩

end Normalize

end WebBridge

end MiniatureWarehouse
