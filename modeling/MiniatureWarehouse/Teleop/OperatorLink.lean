import MiniatureWarehouse.Teleop.CrossingApproval
import Mathlib.Data.Finset.Basic

/-!
# The operator link

The control connection of a remote operator carries a closed set of messages.  A frame is parsed
strictly: what is not exactly one of them is ignored.  The session guard admits a parsed message by
its session, its sequence number and the time it was sent, and holds the newest teleop sample.  The
replay hands a sample on while it is fresh and its session is the current one.

Two clocks are never mixed: sent times are judged on the wall clock, ages on the monotonic one.
-/

namespace MiniatureWarehouse

namespace OperatorLink

open CrossingApproval

/-! ## Messages -/

/-- `ControlKind`. -/
inductive ControlKind
  | heartbeat
  | teleop
  | stopRequest
  | crossingApproval
  | authority
  deriving DecidableEq, Repr

/-- `ControlKind(...)`: the kind a spelling names. -/
def ControlKind.ofString? : String → Option ControlKind
  | "heartbeat" => some .heartbeat
  | "teleop" => some .teleop
  | "stop_request" => some .stopRequest
  | "crossing_approval" => some .crossingApproval
  | "authority" => some .authority
  | _ => none

/-- `ControlPayload`; the token carries the heading of the entry beside what a registry reads. -/
inductive ControlPayload (α : Type)
  | heartbeat
  | teleop (axes : List (PyFloat α)) (buttons : List ℤ)
  | stopRequest (action : String)
  | crossingApproval (token : CrossingApprovalToken α) (entryHeading : PyFloat α)
  | authority (claim : Bool)

/-- The kind whose payload it is. -/
def ControlPayload.kind {α : Type} : ControlPayload α → ControlKind
  | heartbeat => .heartbeat
  | teleop _ _ => .teleop
  | stopRequest _ => .stopRequest
  | crossingApproval _ _ => .crossingApproval
  | authority _ => .authority

/-- `ControlMessage`. -/
structure ControlMessage (α : Type) where
  kind : ControlKind
  sessionEpoch : ℕ
  sequence : ℕ
  sentAtS : PyFloat α
  payload : ControlPayload α

/-! ## The parser -/

/-- `MAX_JOY_ARRAY_LEN`. -/
def maxJoyArrayLen : ℕ := 64

/-- `STOP_ACTIONS`. -/
def stopActions : List String := ["engage", "clear"]

/-- `_ENVELOPE_KEYS`. -/
def envelopeKeys : Finset String := {"kind", "session_epoch", "sequence", "sent_at_s"}

/-- `_PAYLOAD_KEYS`. -/
def payloadKeys : ControlKind → Finset String
  | .heartbeat => ∅
  | .teleop => {"axes", "buttons"}
  | .stopRequest => {"action"}
  | .crossingApproval =>
    {"token_id", "crossing_id", "route_version", "datum_version", "entry_heading", "expires_at_s"}
  | .authority => {"claim"}

/-- `_is_counter`, with the counter it vouches for. -/
def counter? {α : Type} : PyVal α → Option ℕ
  | .int i => if 0 ≤ i then some i.toNat else none
  | _ => none

/-- An integer that is no boolean. -/
def button? {α : Type} : PyVal α → Option ℤ
  | .int i => some i
  | _ => none

/-- `_is_nonempty_str`, with the string. -/
def nonemptyStr? {α : Type} : PyVal α → Option String
  | .str s => if s ≠ "" then some s else none
  | _ => none

/-- `body[key]`: the keys have been checked before. -/
def field {α : Type} (body : PyVal α) (key : String) : PyVal α := (body.get? key).getD .null

section Parser

variable {α : Type} [Field α] [LinearOrder α] [IsStrictOrderedRing α] (F : FloatFormat α)

/-- `all(_is_finite_number(a) for a in axes)`, with the floats. -/
def finiteNumbers? : List (PyVal α) → Except PyErr (Option (List (PyFloat α)))
  | [] => .ok (some [])
  | v :: vs =>
    match finiteNumber? F v with
    | .error e => .error e
    | .ok none => .ok none
    | .ok (some x) => (finiteNumbers? vs).map (Option.map (.fin x :: ·))

/-- `_parse_teleop`. -/
def parseTeleop (body : PyVal α) : Except PyErr (Option (ControlPayload α)) :=
  match field body "axes", field body "buttons" with
  | .list axes, .list buttons =>
    if maxJoyArrayLen < axes.length ∨ maxJoyArrayLen < buttons.length then .ok none
    else
      (finiteNumbers? F axes).map fun axes? =>
        match axes?, buttons.mapM button? with
        | some axes, some buttons => some (.teleop axes buttons)
        | _, _ => none
  | _, _ => .ok none

omit [Field α] [LinearOrder α] [IsStrictOrderedRing α] in
/-- `_parse_stop_request`. -/
def parseStopRequest (body : PyVal α) : Option (ControlPayload α) :=
  match field body "action" with
  | .str action => if action ∈ stopActions then some (.stopRequest action) else none
  | _ => none

/-- `_parse_crossing_approval`. -/
def parseCrossingApproval (body : PyVal α) : Except PyErr (Option (ControlPayload α)) :=
  match nonemptyStr? (field body "token_id"), nonemptyStr? (field body "crossing_id"),
    nonemptyStr? (field body "route_version"), nonemptyStr? (field body "datum_version") with
  | some tokenId, some crossingId, some routeVersion, some datumVersion =>
    match finiteNumber? F (field body "entry_heading") with
    | .error e => .error e
    | .ok none => .ok none
    | .ok (some entryHeading) =>
      (finiteNumber? F (field body "expires_at_s")).map (Option.map fun expiresAt =>
        .crossingApproval ⟨tokenId, crossingId, routeVersion, datumVersion, .float (.fin expiresAt)⟩
          (.fin entryHeading))
  | _, _, _, _ => .ok none

omit [Field α] [LinearOrder α] [IsStrictOrderedRing α] in
/-- `_parse_authority`. -/
def parseAuthority (body : PyVal α) : Option (ControlPayload α) :=
  match field body "claim" with
  | .bool claim => some (.authority claim)
  | _ => none

/-- The payload of a kind. -/
def parsePayload (kind : ControlKind) (body : PyVal α) :
    Except PyErr (Option (ControlPayload α)) :=
  match kind with
  | .heartbeat => .ok (some .heartbeat)
  | .teleop => parseTeleop F body
  | .stopRequest => .ok (parseStopRequest body)
  | .crossingApproval => parseCrossingApproval F body
  | .authority => .ok (parseAuthority body)

/-- The rest of `parse_control_message`, on an object of the given kind. -/
def parseFields (kind : ControlKind) (es : List (String × PyVal α)) :
    Except PyErr (Option (ControlMessage α)) :=
  let body := PyVal.dict es
  if (es.map Prod.fst).toFinset ≠ envelopeKeys ∪ payloadKeys kind then .ok none
  else
    match counter? (field body "session_epoch"), counter? (field body "sequence") with
    | some sessionEpoch, some sequence =>
      match finiteNumber? F (field body "sent_at_s") with
      | .error e => .error e
      | .ok none => .ok none
      | .ok (some sentAtS) =>
        (parsePayload F kind body).map (Option.map fun payload =>
          ⟨kind, sessionEpoch, sequence, .fin sentAtS, payload⟩)
    | _, _ => .ok none

/-- `parse_control_message`, on the text of a frame, if it is one.  An integer beyond the range of
the floats raises out of the parser. -/
def parseControlMessage (scan : JsonScan α) (raw : Option String) :
    Except PyErr (Option (ControlMessage α)) :=
  match raw with
  | none => .ok none
  | some raw =>
    match scan.loads raw with
    | .ok (.dict es) =>
      match (PyVal.dict es).get? "kind" with
      | some (.str kind) =>
        match ControlKind.ofString? kind with
        | some kind => parseFields F kind es
        | none => .ok none
      | _ => .ok none
    | .ok _ | .error _ => .ok none

/-! ### What the parser lets through -/

variable {F} {body : PyVal α} {payload : ControlPayload α}

lemma kind_of_parseTeleop (h : parseTeleop F body = .ok (some payload)) :
    payload.kind = .teleop := by
  unfold parseTeleop at h
  split at h
  · split_ifs at h
    · cases h
    · obtain ⟨axes?, -, h⟩ := exceptMap_eq_ok.mp h
      split at h
      · rw [← Option.some.inj h]
        rfl
      · cases h
  · cases h

omit [Field α] [LinearOrder α] [IsStrictOrderedRing α] in
lemma kind_of_parseStopRequest (h : parseStopRequest body = some payload) :
    payload.kind = .stopRequest := by
  unfold parseStopRequest at h
  split at h
  · split_ifs at h
    rw [← Option.some.inj h]
    rfl
  · cases h

lemma kind_of_parseCrossingApproval (h : parseCrossingApproval F body = .ok (some payload)) :
    payload.kind = .crossingApproval := by
  unfold parseCrossingApproval at h
  split at h
  · split at h
    · cases h
    · cases h
    · obtain ⟨expiresAt?, -, h⟩ := exceptMap_eq_ok.mp h
      obtain ⟨expiresAt, -, rfl⟩ := Option.map_eq_some_iff.mp h
      rfl
  · cases h

omit [Field α] [LinearOrder α] [IsStrictOrderedRing α] in
lemma kind_of_parseAuthority (h : parseAuthority body = some payload) :
    payload.kind = .authority := by
  unfold parseAuthority at h
  split at h
  · rw [← Option.some.inj h]
    rfl
  · cases h

lemma kind_of_parsePayload {kind : ControlKind}
    (h : parsePayload F kind body = .ok (some payload)) : payload.kind = kind := by
  cases kind with
  | heartbeat =>
    rw [← Option.some.inj (Except.ok.inj h)]
    rfl
  | teleop => exact kind_of_parseTeleop h
  | stopRequest => exact kind_of_parseStopRequest (Except.ok.inj h)
  | crossingApproval => exact kind_of_parseCrossingApproval h
  | authority => exact kind_of_parseAuthority (Except.ok.inj h)

/-- A message was sent at a finite time and carries the payload of its kind. -/
lemma parseFields_spec {kind : ControlKind} {es : List (String × PyVal α)} {m : ControlMessage α}
    (h : parseFields F kind es = .ok (some m)) :
    m.sentAtS.isFinite = true ∧ m.payload.kind = m.kind := by
  unfold parseFields at h
  dsimp only at h
  split_ifs at h
  · cases h
  split at h
  · split at h
    · cases h
    · cases h
    · obtain ⟨payload?, hpayload, h⟩ := exceptMap_eq_ok.mp h
      obtain ⟨payload, rfl, rfl⟩ := Option.map_eq_some_iff.mp h
      exact ⟨rfl, kind_of_parsePayload hpayload⟩
  · cases h

lemma parseControlMessage_spec {scan : JsonScan α} {raw : Option String} {m : ControlMessage α}
    (h : parseControlMessage F scan raw = .ok (some m)) :
    m.sentAtS.isFinite = true ∧ m.payload.kind = m.kind := by
  unfold parseControlMessage at h
  cases raw with
  | none => cases h
  | some raw =>
    dsimp only at h
    split at h
    · split at h
      · split at h
        · exact parseFields_spec h
        · cases h
      · cases h
    · cases h
    · cases h

end Parser

/-! ## The session guard -/

/-- `SessionGuard`, with thresholds that have passed the constructor. -/
structure SessionGuard (α : Type) [Field α] [LinearOrder α] where
  maxClockSkewS : α
  validForS : α
  skew_nonneg : 0 ≤ maxClockSkewS
  valid_pos : 0 < validForS
  sessionEpoch : ℕ
  lastSequence : Option ℕ
  pendingTeleop : Option (ControlMessage α)
  pendingReceivedMonoS : Option α
  discardedTeleopCount : ℕ

namespace SessionGuard

variable {α : Type} [Field α] [LinearOrder α] [IsStrictOrderedRing α] (F : FloatFormat α)

/-- `_require_finite`, with `minimum=0.0`. -/
def requireFinite (value : PyVal α) : Except PyErr α :=
  match finiteNumber? F value with
  | .error e => .error e
  | .ok none => .error .valueError
  | .ok (some x) => if x < 0 then .error .valueError else .ok x

/-- `SessionGuard(...)`. -/
def build (sessionEpoch maxClockSkewS validForS : PyVal α) : Except PyErr (SessionGuard α) :=
  match counter? sessionEpoch, requireFinite F maxClockSkewS, requireFinite F validForS with
  | none, _, _ => .error .valueError
  | some _, .error e, _ | some _, .ok _, .error e => .error e
  | some epoch, .ok skew, .ok valid =>
    if h : 0 ≤ skew ∧ 0 < valid then .ok ⟨skew, valid, h.1, h.2, epoch, none, none, none, 0⟩
    else .error .valueError

/-- The oldest sent time that is admitted. -/
def oldest (g : SessionGuard α) (now : α) : PyFloat α :=
  F.sub (F.sub (.fin now) (.fin g.validForS)) (.fin g.maxClockSkewS)

/-- The newest sent time that is admitted. -/
def newest (g : SessionGuard α) (now : α) : PyFloat α := F.add (.fin now) (.fin g.maxClockSkewS)

omit [IsStrictOrderedRing α] in
/-- The guard after a message that has passed every check; a teleop sample replaces the one that
waits. -/
def recordMessage (g : SessionGuard α) (msg : ControlMessage α) (now : α) : SessionGuard α :=
  if msg.kind = .teleop then
    { g with lastSequence := some msg.sequence, pendingTeleop := some msg,
             pendingReceivedMonoS := some now }
  else { g with lastSequence := some msg.sequence }

omit [IsStrictOrderedRing α] in
@[simp] lemma sessionEpoch_recordMessage (g : SessionGuard α) (msg : ControlMessage α) (now : α) :
    (g.recordMessage msg now).sessionEpoch = g.sessionEpoch := by
  unfold recordMessage
  split_ifs <;> rfl

omit [IsStrictOrderedRing α] in
@[simp] lemma lastSequence_recordMessage (g : SessionGuard α) (msg : ControlMessage α) (now : α) :
    (g.recordMessage msg now).lastSequence = some msg.sequence := by
  unfold recordMessage
  split_ifs <;> rfl

omit [IsStrictOrderedRing α] in
/-- The waiting sample is the one that was admitted, or the one from before. -/
lemma pending_recordMessage (g : SessionGuard α) (msg : ControlMessage α) (now : α) :
    ((g.recordMessage msg now).pendingTeleop = some msg ∧
        (g.recordMessage msg now).pendingReceivedMonoS = some now) ∨
      (g.recordMessage msg now).pendingTeleop = g.pendingTeleop ∧
        (g.recordMessage msg now).pendingReceivedMonoS = g.pendingReceivedMonoS := by
  unfold recordMessage
  split_ifs
  · exact .inl ⟨rfl, rfl⟩
  · exact .inr ⟨rfl, rfl⟩

/-- `accept`. -/
def accept (g : SessionGuard α) (msg : Option (ControlMessage α)) (nowWallS nowMonoS : PyVal α) :
    SessionGuard α × Except PyErr Bool :=
  match msg with
  | none => (g, .ok false)
  | some msg =>
    match finiteNumber? F nowWallS with
    | .error e => (g, .error e)
    | .ok none => (g, .ok false)
    | .ok (some wall) =>
      match finiteNumber? F nowMonoS with
      | .error e => (g, .error e)
      | .ok none => (g, .ok false)
      | .ok (some mono) =>
        if msg.sessionEpoch ≠ g.sessionEpoch then (g, .ok false)
        else if ∃ last ∈ g.lastSequence, msg.sequence ≤ last then (g, .ok false)
        else if msg.sentAtS < g.oldest F wall ∨ g.newest F wall < msg.sentAtS then (g, .ok false)
        else (g.recordMessage msg mono, .ok true)

omit [IsStrictOrderedRing α] in
/-- `take_pending_teleop`. -/
def takePendingTeleop (g : SessionGuard α) : SessionGuard α × Option (ControlMessage α × α) :=
  match g.pendingTeleop, g.pendingReceivedMonoS with
  | some msg, some received =>
    ({ g with pendingTeleop := none, pendingReceivedMonoS := none }, some (msg, received))
  | _, _ => (g, none)

omit [IsStrictOrderedRing α] in
/-- `reconnect`, with the number of samples it discards. -/
def reconnect (g : SessionGuard α) (newEpoch : ℤ) : Except PyErr (SessionGuard α × ℕ) :=
  if newEpoch < 0 then .error .valueError
  else if newEpoch ≤ g.sessionEpoch then .error .valueError
  else
    let discarded := if g.pendingTeleop.isSome then 1 else 0
    .ok ({ g with
            discardedTeleopCount := g.discardedTeleopCount + discarded
            sessionEpoch := newEpoch.toNat
            lastSequence := none
            pendingTeleop := none
            pendingReceivedMonoS := none }, discarded)

end SessionGuard

/-! ## The replay -/

section Replay

variable {α : Type} [Field α] [LinearOrder α] [IsStrictOrderedRing α] (F : FloatFormat α)

/-- `DEFAULT_JOY_TIMEOUT_S`. -/
def defaultJoyTimeoutS : PyFloat α := F.round (3 / 5)

/-- `_positive_or_default` of the joystick module. -/
def joyTimeout (value : PyFloat α) : PyFloat α :=
  if !value.isFinite ∨ value ≤ .fin 0 then defaultJoyTimeoutS F else value

/-- `joy_is_stale`. -/
def joyIsStale (elapsedS timeoutS : PyFloat α) : Bool :=
  !elapsedS.isFinite || decide (joyTimeout F timeoutS < elapsedS)

/-- What a site expects of the length of an array, if anything. -/
def hasLength {β : Type} (expected : Option ℤ) (xs : List β) : Bool :=
  match expected with
  | none => true
  | some n => (xs.length : ℤ) = n

/-- The last checks of `replay_teleop`, on the arrays of the sample. -/
def replayArrays (axes : List (PyFloat α)) (buttons : List ℤ)
    (expectedAxes expectedButtons : Option ℤ) : Option (List (PyFloat α) × List ℤ) :=
  if !axes.all PyFloat.isFinite then none
  else if !hasLength expectedAxes axes then none
  else if !hasLength expectedButtons buttons then none
  else some (axes, buttons)

/-- `replay_teleop`. -/
def replayTeleop (msg : Option (ControlMessage α)) (nowMonoS receivedMonoS joyTimeoutS : PyVal α)
    (currentSessionEpoch : ℤ) (expectedAxes expectedButtons : Option ℤ) :
    Except PyErr (Option (List (PyFloat α) × List ℤ)) :=
  match msg with
  | none => .ok none
  | some msg =>
    if msg.kind ≠ .teleop then .ok none
    else if currentSessionEpoch < 0 ∨ (msg.sessionEpoch : ℤ) ≠ currentSessionEpoch then .ok none
    else
      match msg.payload with
      | .teleop axes buttons => do
        let some now ← finiteNumber? F nowMonoS | return none
        let some received ← finiteNumber? F receivedMonoS | return none
        let some timeout ← finiteNumber? F joyTimeoutS | return none
        if timeout ≤ 0 then return none
        let elapsedS := F.sub (.fin now) (.fin received)
        if elapsedS < .fin 0 ∨ joyIsStale F elapsedS (.fin timeout) = true then return none
        return replayArrays axes buttons expectedAxes expectedButtons
      | _ => .ok none

end Replay

end OperatorLink

end MiniatureWarehouse
