import MiniatureWarehouse.WebBridge.ObsEvent

/-!
# Structured events of a conversation

A persona answers with a JSON object: what it says, what it intends, and an action it would take
itself.  The bridge turns the object into an event.  What decides whether the event is still fresh
does not come from the persona: the expiry and the state the event refers to are stamped by the
bridge, whatever the object holds under these names.

`str(value)` of a value that is no string is a parameter, and so are the clock readings.
-/

namespace MiniatureWarehouse

namespace LlmBridge

open WebBridge (truthy)

/-! ## Vocabulary -/

/-- `LocalAction`. -/
inductive LocalAction
  | waitSelf
  | yieldToRetreatA
  | yieldToRetreatB
  | releaseRouteLock
  deriving DecidableEq, Repr

/-- `LocalAction.value`. -/
def LocalAction.value : LocalAction → String
  | .waitSelf => "wait_self"
  | .yieldToRetreatA => "yield_to_retreat_A"
  | .yieldToRetreatB => "yield_to_retreat_B"
  | .releaseRouteLock => "release_route_lock"

/-- `LocalAction(value)`; any other value raises a `ValueError`. -/
def LocalAction.ofValue (value : String) : Except PyErr LocalAction :=
  match [LocalAction.waitSelf, .yieldToRetreatA, .yieldToRetreatB, .releaseRouteLock].find?
      fun action => action.value = value with
  | some action => .ok action
  | none => .error .valueError

/-- `ConversationVerdict`. -/
inductive ConversationVerdict
  | pending
  | accepted
  | rejected
  | unknown
  | violated
  deriving DecidableEq, Repr

/-- `ConversationVerdict.value`. -/
def ConversationVerdict.value : ConversationVerdict → String
  | .pending => "pending"
  | .accepted => "accepted"
  | .rejected => "rejected"
  | .unknown => "unknown"
  | .violated => "violated"

/-- `ConversationVerdict(value)`; any other value raises a `ValueError`. -/
def ConversationVerdict.ofValue (value : String) : Except PyErr ConversationVerdict :=
  match [ConversationVerdict.pending, .accepted, .rejected, .unknown, .violated].find?
      fun verdict => verdict.value = value with
  | some verdict => .ok verdict
  | none => .error .valueError

/-- `FORBIDDEN_ACTION_FIELDS`. -/
def forbiddenActionFields : List String :=
  ["destination", "dropoff", "goal", "pose", "x", "y", "yaw", "coordinates"]

/-- `CandidateAction`. -/
structure CandidateAction (α : Type) where
  action : LocalAction
  target : String
  duration : Option (PyFloat α)
  routeLockId : Option String
  metadata : List (String × PyVal α)

/-- `ConversationEvent`.  The keys of the two dictionaries need not be strings. -/
structure ConversationEvent (α : Type) where
  eventId : String
  episodeId : String
  taskId : Option String
  actor : String
  audience : String
  speech : String
  intent : String
  candidateAction : Option (CandidateAction α)
  requiresAck : Bool
  expiresAt : Option (PyFloat α)
  stateRef : List (PyVal α × PyVal α)
  verdict : ConversationVerdict
  metadata : List (PyVal α × PyVal α)

/-- `DEFAULT_PERSONA_EVENT_TTL_SEC`. -/
def defaultPersonaEventTtlSec : ℚ := 5

/-! ## Dictionaries -/

section Dictionaries

variable {α : Type}

/-- `entries.get(name)` for a string. -/
def lookup (entries : List (PyVal α × PyVal α)) (name : String) : Option (PyVal α) :=
  entries.findSome? fun entry =>
    match entry.1 with
    | .str key => if key = name then some entry.2 else none
    | _ => none

/-- Can a value be the key of a dictionary? -/
def hashable : PyVal α → Bool
  | .list _ | .dict _ => false
  | _ => true

/-- An element of an iterable that `dict` takes as an entry: a sequence of two. -/
def dictItem : PyVal α → Except PyErr (PyVal α × PyVal α)
  | .list [key, value] => if hashable key then .ok (key, value) else .error .typeError
  | .list _ => .error .valueError
  | .str s =>
    match s.toList with
    | [key, value] => .ok (.str (String.ofList [key]), .str (String.ofList [value]))
    | _ => .error .valueError
  | .dict [(key, _), (value, _)] => .ok (.str key, .str value)
  | .dict _ => .error .valueError
  | _ => .error .typeError

/-- `dict(value)`; of several items with one key the last one wins, and is found first. -/
def dictOf : PyVal α → Except PyErr (List (PyVal α × PyVal α))
  | .dict es => .ok (es.map fun e => (.str e.1, e.2))
  | .list xs => (xs.mapM dictItem).map List.reverse
  | .str s => if s = "" then .ok [] else .error .valueError
  | _ => .error .typeError

/-- `dict(data.get(name) or {})`. -/
def dictField [Zero α] [DecidableEq α] (data : List (String × PyVal α)) (name : String) :
    Except PyErr (List (PyVal α × PyVal α)) :=
  match Dict.find data name with
  | none => .ok []
  | some v => if truthy v then dictOf v else .ok []

lemma lookup_map (es : List (String × PyVal α)) (name : String) :
    lookup (es.map fun e => ((.str e.1 : PyVal α), e.2)) name = Dict.find es name := by
  induction es with
  | nil => rfl
  | cons e es ih =>
    obtain ⟨key, value⟩ := e
    unfold lookup at ih ⊢
    rw [List.map_cons, List.findSome?_cons, Dict.find]
    by_cases h : key = name
    · simp [h]
    · simpa [h] using ih

end Dictionaries

/-! ## Parsing -/

section Parse

variable {α : Type} (str : PyVal α → Except PyErr String)

/-- `str(value)`. -/
def strOf : PyVal α → Except PyErr String
  | .str s => .ok s
  | v => str v

/-- `str(data[name])`. -/
def requiredText (data : List (String × PyVal α)) (name : String) : Except PyErr String :=
  match Dict.find data name with
  | some v => strOf str v
  | none => .error .keyError

/-- `str(data["task_id"]) if data.get("task_id") is not None else None`. -/
def optionalText (data : List (String × PyVal α)) (name : String) :
    Except PyErr (Option String) :=
  match Dict.find data name with
  | none | some .null => .ok none
  | some v => (strOf str v).map some

/-- `str(data.get("speech", ""))`. -/
def speechText (data : List (String × PyVal α)) : Except PyErr String :=
  match Dict.find data "speech" with
  | some v => strOf str v
  | none => .ok ""

/-- `ConversationVerdict(str(data.get("verdict", ConversationVerdict.PENDING)))`. -/
def verdictField (data : List (String × PyVal α)) : Except PyErr ConversationVerdict :=
  match Dict.find data "verdict" with
  | some v => (strOf str v).bind ConversationVerdict.ofValue
  | none => .ok .pending

/-- The `target` of a candidate. -/
def targetField (data : List (String × PyVal α)) : Except PyErr String :=
  match Dict.find data "target" with
  | some (.str target) => if target = "" then .error .valueError else .ok target
  | _ => .error .valueError

/-- The `route_lock_id` of a candidate. -/
def routeLockField (data : List (String × PyVal α)) : Except PyErr (Option String) :=
  match Dict.find data "route_lock_id" with
  | none | some .null => .ok none
  | some (.str id) => .ok (some id)
  | some _ => .error .valueError

variable [Field α] [LinearOrder α] [IsStrictOrderedRing α] (F : FloatFormat α)

/-- An optional number of the payload as a float; a boolean is none. -/
def numberField (data : List (String × PyVal α)) (name : String) :
    Except PyErr (Option (PyFloat α)) :=
  match Dict.find data name with
  | none | some .null => .ok none
  | some (.int i) => ((PyVal.int i : PyVal α).toFloat F).map some
  | some (.float x) => .ok (some x)
  | some _ => .error .valueError

/-- `CandidateAction.from_dict`, of an object. -/
def CandidateAction.fromDict (data : List (String × PyVal α)) :
    Except PyErr (CandidateAction α) :=
  if data.any fun e => forbiddenActionFields.contains e.1 then .error .valueError
  else do
    let action ← (requiredText str data "action").bind LocalAction.ofValue
    let target ← targetField data
    let duration ← numberField F data "duration"
    let routeLockId ← routeLockField data
    let metadata := match Dict.find data "metadata" with
      | some (.dict es) => es
      | _ => []
    return ⟨action, target, duration, routeLockId, metadata⟩

/-- The `candidate_action` of an event. -/
def candidateField (data : List (String × PyVal α)) : Except PyErr (Option (CandidateAction α)) :=
  match Dict.find data "candidate_action" with
  | some (.dict es) => (CandidateAction.fromDict str F es).map some
  | _ => .ok none

/-- `ConversationEvent.from_dict`, of an object. -/
def ConversationEvent.fromDict (data : List (String × PyVal α)) :
    Except PyErr (ConversationEvent α) := do
  let candidateAction ← candidateField str F data
  let verdict ← verdictField str data
  let expiresAt ← numberField F data "expires_at"
  let eventId ← requiredText str data "event_id"
  let episodeId ← requiredText str data "episode_id"
  let taskId ← optionalText str data "task_id"
  let actor ← requiredText str data "actor"
  let audience ← requiredText str data "audience"
  let speech ← speechText str data
  let intent ← requiredText str data "intent"
  let requiresAck := (Dict.find data "requires_ack").any truthy
  let stateRef ← dictField data "state_ref"
  let metadata ← dictField data "metadata"
  return ⟨eventId, episodeId, taskId, actor, audience, speech, intent, candidateAction,
    requiresAck, expiresAt, stateRef, verdict, metadata⟩

/-- What the bridge stamps an event with: its generation, a reading of its clock, how long the event
lives, and the state it trusts. -/
structure Stamp (α : Type) where
  genId : ℤ
  clock : α
  ttlSec : PyFloat α
  trustedStateRef : List (String × PyVal α)

/-- `float(clock()) + ttl`. -/
def Stamp.expiry (stamp : Stamp α) : PyFloat α := F.add (.fin stamp.clock) stamp.ttlSec

/-- `{**data, "expires_at": ..., "state_ref": ...}`. -/
def Stamp.on (stamp : Stamp α) (data : List (String × PyVal α)) : List (String × PyVal α) :=
  Dict.assign (Dict.assign data "expires_at" (.float (stamp.expiry F))) "state_ref"
    (.dict (Dict.assign stamp.trustedStateRef "gen_id" (.int stamp.genId)))

/-- `ConversationEvent.from_persona_payload`. -/
def ConversationEvent.fromPersonaPayload (stamp : Stamp α) :
    PyVal α → Except PyErr (ConversationEvent α)
  | .dict data =>
    if stamp.ttlSec.isFinite ∧ ¬ stamp.ttlSec ≤ .fin 0 then
      ConversationEvent.fromDict str F (stamp.on F data)
    else .error .valueError
  | _ => .error .valueError

end Parse

end LlmBridge

end MiniatureWarehouse
