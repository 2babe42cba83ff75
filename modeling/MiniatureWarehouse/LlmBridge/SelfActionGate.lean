import MiniatureWarehouse.LlmBridge.ConversationEvents
import MiniatureWarehouse.Framework.Runs
import Mathlib.Algebra.Order.Field.Rat

/-!
# The gate of the personas' own actions

A persona may make its own robot wait, send it to one of two retreats, or give up a route lock it
holds.  The gate checks the structured event, never the words, and maps an accepted action to a call
of the tools.

The event mixes what the persona wrote with what the bridge stamped on it.  `gate_laws` says what an
accepted verdict stands for: the call addresses the actor alone, and the stamps, not the persona's
own claims of freshness, decided that the event still holds.

The telemetry of the gate is left out.  The clock is read twice for one verdict, and both readings
are inputs, as are the state file and the answer of the tools.
-/

namespace MiniatureWarehouse

namespace LlmBridge

/-! ## The gate -/

/-- `RETREAT_BY_ACTION`. -/
def retreatByAction : LocalAction → Option String
  | .yieldToRetreatA => some "retreat_A"
  | .yieldToRetreatB => some "retreat_B"
  | _ => none

/-- The call of a tool that the executor is handed, its arguments by name. -/
structure LocalToolCall (α : Type) where
  tool : String
  args : List (String × PyVal α)

/-- `GateDecision`. -/
structure GateDecision (α : Type) where
  verdict : ConversationVerdict
  reason : PyVal α
  toolCall : Option (LocalToolCall α)
  result : Option (List (String × PyVal α))

/-- `accepted` of a decision. -/
def GateDecision.accepted {α : Type} (decision : GateDecision α) : Bool :=
  decision.verdict = .accepted

/-- A decision that refuses. -/
def GateDecision.refuse {α : Type} (reason : String) : GateDecision α :=
  ⟨.rejected, .str reason, none, none⟩

/-- A decision that accepts. -/
def GateDecision.accept {α : Type} (toolCall : Option (LocalToolCall α)) : GateDecision α :=
  ⟨.accepted, .null, toolCall, none⟩

/-- `SelfActionGate`, its limits finite, with `datetime.fromisoformat(s).timestamp()`. -/
structure SelfActionGate (α : Type) where
  maxWaitSeconds : α
  genWindow : ℤ
  stateFreshAfterSec : α
  timestamp : String → Except PyErr α

/-- What the gate finds when it validates an event. -/
structure GateInput (α : Type) where
  /-- The clock when the expiry is checked. -/
  now : α
  /-- The clock when the age of the state is taken. -/
  nowState : α
  /-- `state_store.read()`. -/
  state : Except PyErr (PyVal α)
  /-- `id_factory()`. -/
  newId : String

section Gate

variable {α : Type}

/-- Is the robot one of those in the state? -/
def knownRobot (state : List (String × PyVal α)) (actor : String) : Bool :=
  match Dict.find state "robots" with
  | some (.dict robots) => (Dict.find robots actor).isSome
  | _ => false

/-- `item.get("robot") == actor` of an active emergency. -/
def concerns (actor : String) (item : PyVal α) : Bool :=
  match item.get? "robot" with
  | some (.str robot) => robot = actor
  | _ => false

/-- Does an active emergency of the state concern the robot? -/
def inEmergency (state : List (String × PyVal α)) (actor : String) : Bool :=
  match Dict.find state "emergency" with
  | some (.dict emergency) =>
    match Dict.find emergency "active" with
    | some (.list active) => active.any (concerns actor)
    | _ => false
  | _ => false

variable [Field α] [LinearOrder α] [IsStrictOrderedRing α] (F : FloatFormat α)
  (G : SelfActionGate α)

/-- `_validate_live_state`: why the state is refused, if it is. -/
def SelfActionGate.validateLiveState (input : GateInput α) (actor : String) :
    Except PyErr (Option String) :=
  match input.state with
  | .error e => .error e
  | .ok (.dict state) =>
    match Dict.find state "timestamp" with
    | some (.str timestamp) =>
      if timestamp = "" then .ok (some "missing_state_timestamp")
      else
        match G.timestamp timestamp with
        | .error .valueError => .ok (some "state_timestamp_corrupt")
        | .error e => .error e
        | .ok t =>
          let age := F.sub (.fin input.nowState) (.fin t)
          if age < .fin 0 then .ok (some "state_timestamp_in_future")
          else if .fin G.stateFreshAfterSec < age then .ok (some "state_stale")
          else if !knownRobot state actor then .ok (some "unknown_robot")
          else if inEmergency state actor then .ok (some "robot_in_emergency")
          else .ok none
    | _ => .ok (some "missing_state_timestamp")
  | .ok _ => .ok (some "no_state_snapshot")

/-- `_validate_common`: why the event is refused, if it is. -/
def SelfActionGate.validateCommon (input : GateInput α) (event : ConversationEvent α)
    (candidate : CandidateAction α) (genId : ℤ) : Except PyErr (Option String) :=
  if candidate.target ≠ event.actor then .ok (some "target_not_self")
  else
    match event.expiresAt with
    | none => .ok (some "missing_expires_at")
    | some expiresAt =>
      if expiresAt < .fin input.now then .ok (some "expired_event")
      else
        match lookup event.stateRef "gen_id" with
        | some (.int refGen) =>
          if G.genWindow < |refGen - genId| then .ok (some "stale_state_ref")
          else G.validateLiveState F input event.actor
        | _ => .ok (some "missing_state_ref_gen")

omit [IsStrictOrderedRing α] in
/-- `_wait_decision`. -/
def SelfActionGate.waitDecision (input : GateInput α) (event : ConversationEvent α)
    (candidate : CandidateAction α) (genId : ℤ) : GateDecision α :=
  match candidate.duration with
  | none => .refuse "missing_wait_duration"
  | some duration =>
    if !duration.isFinite ∨ duration ≤ .fin 0 then .refuse "invalid_wait_duration"
    else if .fin G.maxWaitSeconds < duration then .refuse "wait_duration_too_long"
    else
      .accept (some ⟨"dispatch_task", [("robot", .str event.actor), ("action", .str "wait"),
        ("duration", .float duration), ("gen_id", .int genId),
        ("idempotency_key", .str input.newId)]⟩)

omit [Field α] [LinearOrder α] [IsStrictOrderedRing α] in
/-- `_yield_decision`; an action without a retreat raises a `KeyError`. -/
def yieldDecision (input : GateInput α) (event : ConversationEvent α)
    (candidate : CandidateAction α) (genId : ℤ) : Except PyErr (GateDecision α) :=
  match retreatByAction candidate.action with
  | none => .error .keyError
  | some retreat =>
    .ok (.accept (some ⟨"dispatch_task", [("robot", .str event.actor), ("action", .str "yield"),
      ("dropoff", .str retreat), ("gen_id", .int genId),
      ("idempotency_key", .str input.newId)]⟩))

omit [Field α] [LinearOrder α] [IsStrictOrderedRing α] in
/-- `_release_lock_decision`. -/
def releaseLockDecision (locks : Dict String String) (event : ConversationEvent α)
    (candidate : CandidateAction α) : GateDecision α :=
  match candidate.routeLockId with
  | none => .refuse "missing_route_lock_id"
  | some lockId =>
    if lockId = "" then .refuse "missing_route_lock_id"
    else if locks.get? lockId ≠ some event.actor then .refuse "route_lock_not_owned"
    else .accept none

/-- `validate`. -/
def SelfActionGate.validate (locks : Dict String String) (input : GateInput α)
    (event : ConversationEvent α) (genId : ℤ) : Except PyErr (GateDecision α) :=
  match event.candidateAction with
  | none => .ok (.refuse "missing_candidate_action")
  | some candidate =>
    match G.validateCommon F input event candidate genId with
    | .error e => .error e
    | .ok (some reason) => .ok (.refuse reason)
    | .ok none =>
      match candidate.action with
      | .waitSelf => .ok (G.waitDecision input event candidate genId)
      | .yieldToRetreatA | .yieldToRetreatB => yieldDecision input event candidate genId
      | .releaseRouteLock => .ok (releaseLockDecision locks event candidate)

omit [Field α] [LinearOrder α] [IsStrictOrderedRing α] in
/-- `_execute_accepted`: the locks afterwards, and the answer; `executed` is that of the tools. -/
def executeAccepted (locks : Dict String String) (event : ConversationEvent α)
    (decision : GateDecision α) (executed : Except PyErr (List (String × PyVal α))) :
    Dict String String × Except PyErr (List (String × PyVal α)) :=
  match event.candidateAction with
  | none => (locks, .ok [("status", .str "rejected"), ("reason", .str "missing_candidate_action")])
  | some candidate =>
    if candidate.action = .releaseRouteLock then
      (locks.erase (candidate.routeLockId.getD ""),
        .ok [("status", .str "ok"), ("action", .str candidate.action.value),
          ("route_lock_id", candidate.routeLockId.elim .null .str)])
    else
      match decision.toolCall with
      | none => (locks, .ok [("status", .str "rejected"), ("reason", .str "missing_tool_call")])
      | some _ => (locks, executed)

omit [Field α] [LinearOrder α] [IsStrictOrderedRing α] in
/-- The decision of `execute` once the answer is there. -/
def finalDecision (decision : GateDecision α) (result : List (String × PyVal α)) :
    GateDecision α :=
  match Dict.find result "status" with
  | some (.str "ok") => ⟨.accepted, .null, decision.toolCall, some result⟩
  | _ => ⟨.rejected, (Dict.find result "reason").getD (.str "rejected"), decision.toolCall,
      some result⟩

/-- `execute`: the locks afterwards, and the decision. -/
def SelfActionGate.execute (locks : Dict String String) (input : GateInput α)
    (event : ConversationEvent α) (genId : ℤ)
    (executed : Except PyErr (List (String × PyVal α))) :
    Dict String String × Except PyErr (GateDecision α) :=
  match G.validate F locks input event genId with
  | .error e => (locks, .error e)
  | .ok decision =>
    if decision.accepted then
      let (locks', result) := executeAccepted locks event decision executed
      (locks', result.map (finalDecision decision))
    else (locks, .ok decision)

end Gate

/-! ## What an accepted verdict stands for -/

section Laws

variable {α : Type}

/-- The robot is named by one of the active emergencies of the state. -/
def ActiveEmergency (state : List (String × PyVal α)) (actor : String) : Prop :=
  ∃ emergency active item, Dict.find state "emergency" = some (.dict emergency) ∧
    Dict.find emergency "active" = some (.list active) ∧ item ∈ active ∧
      item.get? "robot" = some (.str actor)

lemma concerns_iff {actor : String} {item : PyVal α} :
    concerns actor item = true ↔ item.get? "robot" = some (.str actor) := by
  unfold concerns
  split
  · rename_i robot hrobot
    rw [hrobot, decide_eq_true_eq, Option.some.injEq, PyVal.str.injEq]
  · rename_i hnone
    constructor
    · intro h
      cases h
    · exact fun h => absurd h (hnone actor)

lemma inEmergency_iff {state : List (String × PyVal α)} {actor : String} :
    inEmergency state actor = true ↔ ActiveEmergency state actor := by
  unfold inEmergency ActiveEmergency
  constructor
  · intro h
    split at h
    · rename_i emergency hemergency
      split at h
      · rename_i active hactive
        obtain ⟨item, hitem, hconcerns⟩ := List.any_eq_true.mp h
        exact ⟨emergency, active, item, hemergency, hactive, hitem, concerns_iff.mp hconcerns⟩
      · cases h
    · cases h
  · rintro ⟨emergency, active, item, hemergency, hactive, hitem, hconcerns⟩
    rw [hemergency]
    dsimp only
    rw [hactive]
    exact List.any_eq_true.mpr ⟨item, hitem, concerns_iff.mpr hconcerns⟩

/-- The call addresses the actor, with a wait of a positive and bounded duration or with the retreat
of the action. -/
structure SelfCall [LinearOrder α] [Zero α] (maxWaitSeconds : α) (actor : String)
    (action : LocalAction) (call : LocalToolCall α) : Prop where
  tool : call.tool = "dispatch_task"
  robot : Dict.find call.args "robot" = some (.str actor)
  action :
    (Dict.find call.args "action" = some (.str "wait") ∧
      ∃ duration : α, Dict.find call.args "duration" = some (.float (.fin duration)) ∧
        0 < duration ∧ duration ≤ maxWaitSeconds) ∨
    (Dict.find call.args "action" = some (.str "yield") ∧
      ∃ retreat, retreatByAction action = some retreat ∧
        Dict.find call.args "dropoff" = some (.str retreat))

variable [Field α] [LinearOrder α] [IsStrictOrderedRing α] {F : FloatFormat α}
  {G : SelfActionGate α} {str : PyVal α → Except PyErr String}

/-- The state lets the actor act: its age lies between zero and the limit, and no active emergency
concerns the actor. -/
structure LiveState (F : FloatFormat α) (G : SelfActionGate α) (input : GateInput α)
    (actor : String) : Prop where
  exists_fresh : ∃ state timestamp t, input.state = .ok (.dict state) ∧
    Dict.find state "timestamp" = some (.str timestamp) ∧ G.timestamp timestamp = .ok t ∧
      .fin 0 ≤ F.sub (.fin input.nowState) (.fin t) ∧
        F.sub (.fin input.nowState) (.fin t) ≤ .fin G.stateFreshAfterSec ∧
          ¬ ActiveEmergency state actor

/-- What an accepted verdict on a stamped event implies. -/
structure Sound (F : FloatFormat α) (G : SelfActionGate α) (stamp : Stamp α)
    (locks : Dict String String) (input : GateInput α) (event : ConversationEvent α) (genId : ℤ)
    (decision : GateDecision α) : Prop where
  candidate : ∃ candidate, event.candidateAction = some candidate ∧
    candidate.target = event.actor ∧
      (∀ call, decision.toolCall = some call →
        SelfCall G.maxWaitSeconds event.actor candidate.action call) ∧
        (decision.toolCall = none → candidate.action = .releaseRouteLock ∧
          ∃ lockId, candidate.routeLockId = some lockId ∧ locks.get? lockId = some event.actor)
  unexpired : .fin input.now ≤ stamp.expiry F
  inWindow : |stamp.genId - genId| ≤ G.genWindow
  live : LiveState F G input event.actor

lemma validateLiveState_none {input : GateInput α} {actor : String}
    (h : G.validateLiveState F input actor = .ok none) : LiveState F G input actor := by
  unfold SelfActionGate.validateLiveState at h
  split at h
  · cases h
  · rename_i state hstate
    split at h
    · rename_i timestamp htimestamp
      by_cases hempty : timestamp = ""
      · rw [if_pos hempty] at h
        cases h
      rw [if_neg hempty] at h
      split at h
      · cases h
      · cases h
      · rename_i t ht
        dsimp only at h
        have hage : F.sub (.fin input.nowState) (.fin t) ≠ .nan := F.round_ne_nan _
        split_ifs at h with hfuture hstale hknown hemergency
        · cases h
        · cases h
        · cases h
        · cases h
        · refine ⟨state, timestamp, t, hstate, htimestamp, ht, ?_, ?_, ?_⟩
          · exact PyFloat.le_of_not_lt (by simp) hage hfuture
          · exact PyFloat.le_of_not_lt hage (by simp) hstale
          · exact fun hactive => hemergency (inEmergency_iff.mpr hactive)
    · cases h
  · cases h

/-- What a persona wrote under the names of the stamps is gone. -/
lemma find_on (stamp : Stamp α) (data : List (String × PyVal α)) (name : String) :
    Dict.find (stamp.on F data) name =
      if name = "state_ref" then
        some (.dict (Dict.assign stamp.trustedStateRef "gen_id" (.int stamp.genId)))
      else if name = "expires_at" then some (.float (stamp.expiry F))
      else Dict.find data name := by
  unfold Stamp.on
  rw [Dict.find_assign, Dict.find_assign]

lemma stateRef_on {stamp : Stamp α} {data : List (String × PyVal α)}
    {stateRef : List (PyVal α × PyVal α)}
    (h : dictField (stamp.on F data) "state_ref" = .ok stateRef) :
    lookup stateRef "gen_id" = some (.int stamp.genId) := by
  have hgen : Dict.find (Dict.assign stamp.trustedStateRef "gen_id" (.int stamp.genId)) "gen_id" =
      some (.int stamp.genId) := by
    rw [Dict.find_assign, if_pos rfl]
  generalize hes : Dict.assign stamp.trustedStateRef "gen_id" (.int stamp.genId) = es at hgen
  have htruthy : WebBridge.truthy (.dict es : PyVal α) = true := by
    cases es with
    | nil => cases hgen
    | cons e es => rfl
  unfold dictField at h
  rw [find_on, if_pos rfl, hes] at h
  dsimp only at h
  rw [if_pos htruthy] at h
  obtain rfl := Except.ok.inj h
  rw [lookup_map]
  exact hgen

/-- The event that was stamped carries the stamps. -/
lemma stamped_of_fromPersonaPayload {stamp : Stamp α} {payload : PyVal α}
    {event : ConversationEvent α}
    (h : ConversationEvent.fromPersonaPayload str F stamp payload = .ok event) :
    stamp.ttlSec.isFinite = true ∧ event.expiresAt = some (stamp.expiry F) ∧
      lookup event.stateRef "gen_id" = some (.int stamp.genId) := by
  unfold ConversationEvent.fromPersonaPayload at h
  split at h
  · rename_i data
    split_ifs at h with httl
    obtain ⟨candidateAction, -, h⟩ := exceptBind_eq_ok.mp h
    obtain ⟨verdict, -, h⟩ := exceptBind_eq_ok.mp h
    obtain ⟨expiresAt, hexpires, h⟩ := exceptBind_eq_ok.mp h
    obtain ⟨eventId, -, h⟩ := exceptBind_eq_ok.mp h
    obtain ⟨episodeId, -, h⟩ := exceptBind_eq_ok.mp h
    obtain ⟨taskId, -, h⟩ := exceptBind_eq_ok.mp h
    obtain ⟨actor, -, h⟩ := exceptBind_eq_ok.mp h
    obtain ⟨audience, -, h⟩ := exceptBind_eq_ok.mp h
    obtain ⟨speech, -, h⟩ := exceptBind_eq_ok.mp h
    obtain ⟨intent, -, h⟩ := exceptBind_eq_ok.mp h
    obtain ⟨stateRef, hstateRef, h⟩ := exceptBind_eq_ok.mp h
    obtain ⟨metadata, -, h⟩ := exceptBind_eq_ok.mp h
    obtain rfl := Except.ok.inj h
    refine ⟨httl.1, ?_, stateRef_on hstateRef⟩
    unfold numberField at hexpires
    rw [find_on, if_neg (by decide), if_pos rfl] at hexpires
    exact (Except.ok.inj hexpires).symm
  · cases h

/-- An event whose common checks pass is unexpired, within the window, and finds a live state. -/
lemma validateCommon_none {stamp : Stamp α} {input : GateInput α} {event : ConversationEvent α}
    {candidate : CandidateAction α} {genId : ℤ} (hfinite : stamp.ttlSec.isFinite = true)
    (hexpires : event.expiresAt = some (stamp.expiry F))
    (hgen : lookup event.stateRef "gen_id" = some (.int stamp.genId))
    (h : G.validateCommon F input event candidate genId = .ok none) :
    candidate.target = event.actor ∧ .fin input.now ≤ stamp.expiry F ∧
      |stamp.genId - genId| ≤ G.genWindow ∧ LiveState F G input event.actor := by
  have hnan : stamp.expiry F ≠ .nan := by
    unfold Stamp.expiry
    cases httl : stamp.ttlSec with
    | fin ttl => exact F.round_ne_nan _
    | _ =>
      rw [httl] at hfinite
      cases hfinite
  unfold SelfActionGate.validateCommon at h
  rw [hexpires, hgen] at h
  dsimp only at h
  by_cases htarget : candidate.target ≠ event.actor
  · rw [if_pos htarget] at h
    cases h
  rw [if_neg htarget] at h
  by_cases hexpired : stamp.expiry F < .fin input.now
  · rw [if_pos hexpired] at h
    cases h
  rw [if_neg hexpired] at h
  by_cases hwindow : G.genWindow < |stamp.genId - genId|
  · rw [if_pos hwindow] at h
    cases h
  rw [if_neg hwindow] at h
  exact ⟨not_ne_iff.mp htarget, PyFloat.le_of_not_lt (by simp) hnan hexpired,
    not_lt.mp hwindow, validateLiveState_none h⟩

omit [IsStrictOrderedRing α] in
lemma selfCall_waitDecision {input : GateInput α} {event : ConversationEvent α}
    {candidate : CandidateAction α} {genId : ℤ}
    (h : (G.waitDecision input event candidate genId).verdict = .accepted) :
    ∃ call, (G.waitDecision input event candidate genId).toolCall = some call ∧
      SelfCall G.maxWaitSeconds event.actor candidate.action call := by
  unfold SelfActionGate.waitDecision at h ⊢
  split at h
  · cases h
  · rename_i duration hduration
    by_cases hinvalid : !duration.isFinite ∨ duration ≤ .fin 0
    · rw [if_pos hinvalid] at h
      cases h
    rw [if_neg hinvalid] at h ⊢
    by_cases hlong : .fin G.maxWaitSeconds < duration
    · rw [if_pos hlong] at h
      cases h
    rw [if_neg hlong]
    obtain ⟨hfinite, hpos⟩ := not_or.mp hinvalid
    cases duration with
    | fin x =>
      refine ⟨_, rfl, rfl, rfl, .inl ⟨rfl, x, rfl, ?_, ?_⟩⟩
      · exact not_le.mp fun hle => hpos (PyFloat.fin_le_fin.mpr hle)
      · exact not_lt.mp fun hlt => hlong (PyFloat.fin_lt_fin.mpr hlt)
    | _ => exact absurd rfl hfinite

omit [Field α] [LinearOrder α] [IsStrictOrderedRing α] in
lemma releaseLockDecision_accepted {locks : Dict String String} {event : ConversationEvent α}
    {candidate : CandidateAction α}
    (h : (releaseLockDecision locks event candidate).verdict = .accepted) :
    (releaseLockDecision locks event candidate).toolCall = none ∧
      ∃ lockId, candidate.routeLockId = some lockId ∧ locks.get? lockId = some event.actor := by
  unfold releaseLockDecision at h ⊢
  split at h
  · cases h
  · rename_i lockId hlock
    split_ifs at h ⊢ with hempty howner
    · cases h
    · cases h
    · exact ⟨rfl, lockId, hlock, not_ne_iff.mp howner⟩

/-- An accepted release is one of a lock that the actor owns. -/
lemma owned_of_validate {locks : Dict String String} {input : GateInput α}
    {event : ConversationEvent α} {genId : ℤ} {decision : GateDecision α}
    {candidate : CandidateAction α} (h : G.validate F locks input event genId = .ok decision)
    (haccepted : decision.verdict = .accepted)
    (hcandidate : event.candidateAction = some candidate)
    (haction : candidate.action = .releaseRouteLock) :
    ∃ lockId, candidate.routeLockId = some lockId ∧ locks.get? lockId = some event.actor := by
  unfold SelfActionGate.validate at h
  rw [hcandidate] at h
  dsimp only at h
  split at h
  · cases h
  · obtain rfl := Except.ok.inj h
    cases haccepted
  · rw [haction] at h
    obtain rfl := Except.ok.inj h
    exact (releaseLockDecision_accepted haccepted).2

/-- **Soundness.** -/
lemma validate_sound {stamp : Stamp α} {locks : Dict String String} {input : GateInput α}
    {event : ConversationEvent α} {genId : ℤ} {decision : GateDecision α}
    (hfinite : stamp.ttlSec.isFinite = true)
    (hexpires : event.expiresAt = some (stamp.expiry F))
    (hgen : lookup event.stateRef "gen_id" = some (.int stamp.genId))
    (h : G.validate F locks input event genId = .ok decision)
    (haccepted : decision.verdict = .accepted) :
    Sound F G stamp locks input event genId decision := by
  unfold SelfActionGate.validate at h
  split at h
  · obtain rfl := Except.ok.inj h
    cases haccepted
  · rename_i candidate hcandidate
    split at h
    · cases h
    · obtain rfl := Except.ok.inj h
      cases haccepted
    · rename_i hcommon
      obtain ⟨htarget, hunexpired, hwindow, hlive⟩ :=
        validateCommon_none hfinite hexpires hgen hcommon
      have hyield : yieldDecision input event candidate genId = .ok decision →
          ∃ call, decision.toolCall = some call ∧
            SelfCall G.maxWaitSeconds event.actor candidate.action call := by
        intro hdecision
        unfold yieldDecision at hdecision
        split at hdecision
        · cases hdecision
        · rename_i retreat hretreat
          obtain rfl := Except.ok.inj hdecision
          exact ⟨_, rfl, rfl, rfl, .inr ⟨rfl, retreat, hretreat, rfl⟩⟩
      have hcalls : (∃ call, decision.toolCall = some call ∧
          SelfCall G.maxWaitSeconds event.actor candidate.action call) →
            Sound F G stamp locks input event genId decision := by
        rintro ⟨call, hcall, hself⟩
        refine ⟨⟨candidate, hcandidate, htarget, ?_, ?_⟩, hunexpired, hwindow, hlive⟩
        · intro call' hcall'
          rw [hcall] at hcall'
          exact Option.some.inj hcall' ▸ hself
        · intro hnone
          rw [hcall] at hnone
          cases hnone
      split at h
      · obtain rfl := Except.ok.inj h
        exact hcalls (selfCall_waitDecision haccepted)
      · exact hcalls (hyield h)
      · exact hcalls (hyield h)
      · rename_i haction
        obtain rfl := Except.ok.inj h
        obtain ⟨hcall, howned⟩ := releaseLockDecision_accepted haccepted
        refine ⟨⟨candidate, hcandidate, htarget, ?_, ?_⟩, hunexpired, hwindow, hlive⟩
        · intro call hcall'
          rw [hcall] at hcall'
          cases hcall'
        · exact fun _ => ⟨haction, howned⟩

/-! ## What the persona wrote about freshness -/

/-- Two payloads differ at most in the expiry and the state they claim. -/
def SameButEnvelope (data data' : List (String × PyVal α)) : Prop :=
  ∀ name, name ≠ "expires_at" → name ≠ "state_ref" → Dict.find data name = Dict.find data' name

/-- An event is read off its fields alone. -/
lemma fromDict_congr {data data' : List (String × PyVal α)}
    (h : ∀ name, Dict.find data name = Dict.find data' name) :
    ConversationEvent.fromDict str F data = ConversationEvent.fromDict str F data' := by
  unfold ConversationEvent.fromDict candidateField verdictField numberField requiredText
    optionalText speechText dictField
  simp only [h]

/-- **Noninterference**: both payloads become the same event, or fail in the same way. -/
lemma fromPersonaPayload_congr {data data' : List (String × PyVal α)}
    (h : SameButEnvelope data data') (stamp : Stamp α) :
    ConversationEvent.fromPersonaPayload str F stamp (.dict data) =
      ConversationEvent.fromPersonaPayload str F stamp (.dict data') := by
  have hfields : ∀ name, Dict.find (stamp.on F data) name = Dict.find (stamp.on F data') name := by
    intro name
    rw [find_on, find_on]
    by_cases hstate : name = "state_ref"
    · rw [if_pos hstate, if_pos hstate]
    · rw [if_neg hstate, if_neg hstate]
      by_cases hexpires : name = "expires_at"
      · rw [if_pos hexpires, if_pos hexpires]
      · rw [if_neg hexpires, if_neg hexpires, h name hexpires hstate]
  unfold ConversationEvent.fromPersonaPayload
  dsimp only
  rw [fromDict_congr hfields]

/-! ## The locks -/

/-- What `execute` is called with. -/
structure Execution (α : Type) where
  event : ConversationEvent α
  genId : ℤ
  input : GateInput α
  executed : Except PyErr (List (String × PyVal α))

/-- The gate over its calls.  The locks are read and written between two waits, so that calls that
overlap change them one after the other. -/
def SelfActionGate.machine (F : FloatFormat α) (G : SelfActionGate α) :
    Machine (Dict String String) (Execution α) (Except PyErr (GateDecision α)) where
  step locks e := G.execute F locks e.input e.event e.genId e.executed

/-- A call releases a lock: its actor owns the lock, and the release is accepted. -/
structure Releases (F : FloatFormat α) (G : SelfActionGate α) (locks : Dict String String)
    (e : Execution α) (lockId owner : String) : Prop where
  actor : e.event.actor = owner
  owned : locks.get? lockId = some owner
  release : ∃ candidate, e.event.candidateAction = some candidate ∧
    candidate.action = .releaseRouteLock ∧ candidate.routeLockId = some lockId
  accepted : ∃ decision, ((G.machine F).step locks e).2 = .ok decision ∧
    decision.verdict = .accepted

/-- **What a call does to the locks**: nothing, or it takes out the lock it releases. -/
lemma step_locks (locks : Dict String String) (e : Execution α) :
    ((G.machine F).step locks e).1 = locks ∨
      ∃ lockId, Releases F G locks e lockId e.event.actor ∧
        ((G.machine F).step locks e).1 = locks.erase lockId := by
  have hstep : (G.machine F).step locks e =
      G.execute F locks e.input e.event e.genId e.executed := rfl
  rw [hstep]
  unfold SelfActionGate.execute
  cases hvalid : G.validate F locks e.input e.event e.genId with
  | error err => exact .inl rfl
  | ok decision =>
    dsimp only
    by_cases haccepted : decision.accepted = true
    · rw [if_pos haccepted]
      unfold executeAccepted
      cases hcandidate : e.event.candidateAction with
      | none => exact .inl rfl
      | some candidate =>
        dsimp only
        by_cases haction : candidate.action = .releaseRouteLock
        · rw [if_pos haction]
          have hverdict : decision.verdict = .accepted := of_decide_eq_true haccepted
          obtain ⟨lockId, hlock, howned⟩ := owned_of_validate hvalid hverdict hcandidate haction
          have hlocks : candidate.routeLockId.getD "" = lockId := by rw [hlock, Option.getD_some]
          have hanswer : ∃ final, ((G.machine F).step locks e).2 = .ok final ∧
              final.verdict = .accepted := by
            rw [hstep]
            unfold SelfActionGate.execute executeAccepted
            rw [hvalid]
            dsimp only
            rw [if_pos haccepted, hcandidate]
            dsimp only
            rw [if_pos haction]
            exact ⟨_, rfl, rfl⟩
          exact .inr ⟨lockId, ⟨rfl, howned, ⟨candidate, hcandidate, haction, hlock⟩, hanswer⟩,
            by rw [hlocks]⟩
        · rw [if_neg haction]
          split
          · exact .inl rfl
          · exact .inl rfl
    · rw [if_neg haccepted]
      exact .inl rfl

/-- **What a run does to a lock**: the lock keeps its owner, or it is gone and its owner released it
in one of the calls. -/
lemma run_locks (locks : Dict String String) (steps : List (Execution α)) (lockId : String) :
    ((G.machine F).run locks steps).get? lockId = locks.get? lockId ∨
      ((G.machine F).run locks steps).get? lockId = none ∧
        ∃ owner before e after, locks.get? lockId = some owner ∧ steps = before ++ e :: after ∧
          Releases F G ((G.machine F).run locks before) e lockId owner := by
  induction steps using List.reverseRecOn with
  | nil => exact .inl rfl
  | append_singleton before e ih =>
    rw [Machine.run_concat]
    have hlater : ∀ owner before' e' after', before = before' ++ e' :: after' →
        Releases F G ((G.machine F).run locks before') e' lockId owner →
        before ++ [e] = before' ++ e' :: (after' ++ [e]) := by
      rintro owner before' e' after' rfl -
      rw [List.append_assoc, List.cons_append]
    rcases step_locks ((G.machine F).run locks before) e with hkeep | ⟨lockId', hrelease, hdrop⟩
    · rw [hkeep]
      rcases ih with hsame | ⟨hgone, owner, before', e', after', howner, hsplit, hrelease⟩
      · exact .inl hsame
      · exact .inr ⟨hgone, owner, before', e', after' ++ [e], howner,
          hlater owner before' e' after' hsplit hrelease, hrelease⟩
    · rw [hdrop, Dict.get?_erase]
      by_cases hlock : lockId = lockId'
      · rw [if_pos hlock]
        subst hlock
        rcases ih with hsame | ⟨hgone, -⟩
        · rw [hrelease.owned] at hsame
          exact .inr ⟨rfl, e.event.actor, before, e, [], hsame.symm, rfl, hrelease⟩
        · have howned := hrelease.owned
          rw [hgone] at howned
          cases howned
      · rw [if_neg hlock]
        rcases ih with hsame | ⟨hgone, owner, before', e', after', howner, hsplit, hrelease'⟩
        · exact .inl hsame
        · exact .inr ⟨hgone, owner, before', e', after' ++ [e], howner,
            hlater owner before' e' after' hsplit hrelease', hrelease'⟩

/-! ## The laws -/

omit [Field α] [LinearOrder α] [IsStrictOrderedRing α] in
lemma toolCall_finalDecision (decision : GateDecision α) (result : List (String × PyVal α)) :
    (finalDecision decision result).toolCall = decision.toolCall := by
  unfold finalDecision
  split
  · rfl
  · rfl

/-- What `execute` accepts, `validate` has accepted, with the same call. -/
lemma accepted_of_execute {locks : Dict String String} {input : GateInput α}
    {event : ConversationEvent α} {genId : ℤ} {executed : Except PyErr (List (String × PyVal α))}
    {final : GateDecision α} (h : (G.execute F locks input event genId executed).2 = .ok final)
    (haccepted : final.verdict = .accepted) :
    ∃ decision, G.validate F locks input event genId = .ok decision ∧
      decision.verdict = .accepted ∧ final.toolCall = decision.toolCall := by
  unfold SelfActionGate.execute at h
  split at h
  · cases h
  · rename_i decision hvalid
    refine ⟨decision, hvalid, ?_⟩
    by_cases hdecision : decision.accepted = true
    · rw [if_pos hdecision] at h
      obtain ⟨result, -, hfinal⟩ := exceptMap_eq_ok.mp h
      refine ⟨of_decide_eq_true hdecision, ?_⟩
      rw [← hfinal]
      exact toolCall_finalDecision decision result
    · rw [if_neg hdecision] at h
      obtain rfl := Except.ok.inj h
      exact ⟨haccepted, rfl⟩

/-- **The gate of the personas' own actions.**  A verdict that accepts an event made of a persona's
payload is sound, both when the gate validates the event and when it executes it.  Payloads that
differ in the persona's claims of freshness alone get the same decision.  A lock leaves the gate in
a release that is accepted and that its owner made. -/
theorem gate_laws (F : FloatFormat α) (G : SelfActionGate α) (str : PyVal α → Except PyErr String) :
    (∀ stamp payload event locks input genId executed decision,
      ConversationEvent.fromPersonaPayload str F stamp payload = .ok event →
      (G.validate F locks input event genId = .ok decision ∨
        (G.execute F locks input event genId executed).2 = .ok decision) →
      decision.verdict = .accepted → Sound F G stamp locks input event genId decision) ∧
    (∀ stamp data data' locks input genId, SameButEnvelope data data' →
      ((ConversationEvent.fromPersonaPayload str F stamp (.dict data)).bind fun event =>
        G.validate F locks input event genId) =
      ((ConversationEvent.fromPersonaPayload str F stamp (.dict data')).bind fun event =>
        G.validate F locks input event genId)) ∧
    (∀ locks steps lockId,
      ((G.machine F).run locks steps).get? lockId = locks.get? lockId ∨
        ((G.machine F).run locks steps).get? lockId = none ∧
          ∃ owner before e after, locks.get? lockId = some owner ∧ steps = before ++ e :: after ∧
            Releases F G ((G.machine F).run locks before) e lockId owner) := by
  refine ⟨?_, ?_, run_locks⟩
  · intro stamp payload event locks input genId executed decision hevent hdecision haccepted
    obtain ⟨hfinite, hexpires, hgen⟩ := stamped_of_fromPersonaPayload hevent
    rcases hdecision with hvalid | hexecute
    · exact validate_sound hfinite hexpires hgen hvalid haccepted
    · obtain ⟨decision', hvalid, hverdict, hcall⟩ := accepted_of_execute hexecute haccepted
      have hsound := validate_sound hfinite hexpires hgen hvalid hverdict
      refine ⟨?_, hsound.unexpired, hsound.inWindow, hsound.live⟩
      rw [hcall]
      exact hsound.candidate
  · intro stamp data data' locks input genId hsame
    rw [fromPersonaPayload_congr hsame]

end Laws

/-! ## A retreat -/

/-- `datetime.fromisoformat(s).timestamp()` at the start of a day. -/
def newYear (s : String) : Except PyErr ℚ :=
  if s = "2026-01-01T00:00:00+00:00" then .ok 1767225600 else .error .valueError

/-- A gate with the default limits. -/
def defaultGate : SelfActionGate ℚ := ⟨5, 2, 1 / 2, newYear⟩

/-- A stamp of the bridge. -/
def retreatStamp : Stamp ℚ := ⟨7, 1767225600, .fin defaultPersonaEventTtlSec, []⟩

/-- A persona sends its robot to a retreat, and claims an expiry of its own. -/
def retreatPayload : PyVal ℚ :=
  .dict [("event_id", .str "evt_1"), ("episode_id", .str "ep_1"), ("actor", .str "bot1"),
    ("audience", .str "bot2"), ("intent", .str "yield"), ("expires_at", .int 0),
    ("candidate_action", .dict [("action", .str "yield_to_retreat_A"), ("target", .str "bot1")])]

/-- The gate finds a fresh state in which the robot is known. -/
def retreatInput : GateInput ℚ :=
  ⟨1767225600, 1767225600,
    .ok (.dict [("timestamp", .str "2026-01-01T00:00:00+00:00"),
      ("robots", .dict [("bot1", .dict [])])]), "key_1"⟩

/-- The event that is stamped. -/
def retreatEvent : ConversationEvent ℚ where
  eventId := "evt_1"
  episodeId := "ep_1"
  taskId := none
  actor := "bot1"
  audience := "bot2"
  speech := ""
  intent := "yield"
  candidateAction := some ⟨.yieldToRetreatA, "bot1", none, none, []⟩
  requiresAck := false
  expiresAt := some (retreatStamp.expiry (.exact ℚ))
  stateRef := [(.str "gen_id", .int 7)]
  verdict := .pending
  metadata := []

theorem gate_laws_retreat :
    ConversationEvent.fromPersonaPayload (fun _ => .error .typeError) (.exact ℚ) retreatStamp
      retreatPayload = .ok retreatEvent ∧
    ∃ decision,
      defaultGate.validate (.exact ℚ) .empty retreatInput retreatEvent 7 = .ok decision ∧
      decision.toolCall.isSome = true ∧
      Sound (.exact ℚ) defaultGate retreatStamp .empty retreatInput retreatEvent 7 decision := by
  have hevent : ConversationEvent.fromPersonaPayload (fun _ => .error .typeError) (.exact ℚ)
      retreatStamp retreatPayload = .ok retreatEvent := rfl
  have haccepts : ((defaultGate.validate (.exact ℚ) .empty retreatInput retreatEvent 7).toOption.any
      fun decision => decision.accepted && decision.toolCall.isSome) = true := by
    decide +kernel
  have hlaws := gate_laws (.exact ℚ) defaultGate fun _ => .error .typeError
  cases hvalid : defaultGate.validate (.exact ℚ) .empty retreatInput retreatEvent 7 with
  | error e =>
    rw [hvalid] at haccepts
    cases haccepts
  | ok decision =>
    rw [hvalid] at haccepts
    obtain ⟨haccepted, hcall⟩ := (Bool.and_eq_true _ _).mp haccepts
    exact ⟨hevent, decision, rfl, hcall, hlaws.1 retreatStamp retreatPayload retreatEvent .empty
      retreatInput 7 (.ok []) decision hevent (.inl hvalid) (of_decide_eq_true haccepted)⟩

end LlmBridge

end MiniatureWarehouse
