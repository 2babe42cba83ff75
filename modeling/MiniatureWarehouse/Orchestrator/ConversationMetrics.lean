import MiniatureWarehouse.Composition.OfflineJoin
import MiniatureWarehouse.Framework.Loops
import MiniatureWarehouse.LlmBridge.OperatorFeedback

/-!
# The conversation metrics

The benchmark of the robots' conversations is computed from the rows of an event log.  Separate
passes over the rows collect the episodes that were started, the row that closed each episode, the
proposals the commander reviewed and those it overrode, and the contracts that were kept or broken;
the metrics are counts of what was collected and quotients of these counts.

How a value is written as text, and the percentile of the latencies, are parameters: the first is
the language's, the second may be asked for a list with a `NaN` in it, for which the language
promises no order.
-/

namespace MiniatureWarehouse

namespace ConversationMetrics

open OfflineJoin (Row field)
open OperatorFeedback (isOneOf)

/-! ## Rows -/

section Rows

variable {α : Type}

/-- `row.get(name) == text`. -/
def reads (row : Row α) (name text : String) : Bool :=
  match field row name with
  | .str s => s = text
  | _ => false

/-- `row.get(name) is not None`. -/
def present (row : Row α) (name : String) : Bool :=
  match field row name with
  | .null => false
  | _ => true

/-- A field that should be a mapping, an empty one in place of anything else. -/
def dictField (row : Row α) (name : String) : Row α :=
  match field row name with
  | .dict entries => entries
  | _ => []

/-- `_non_negative_int`. -/
def nonNegativeInt : PyVal α → ℕ
  | .int i => i.toNat
  | _ => 0

variable (pyStr : PyVal α → Except PyErr String)

/-- `str(value)`. -/
def strOf : PyVal α → Except PyErr String
  | .str s => .ok s
  | v => pyStr v

/-- `_episode_id`. -/
def episodeId (row : Row α) : Except PyErr (Option String) :=
  if present row "episode_id" then (strOf pyStr (field row "episode_id")).map some else .ok none

variable [Field α] [LinearOrder α]

/-- `_truthy`. -/
def truthy : PyVal α → Bool
  | .bool b => b
  | .str s => s = "true"
  | .int i => i = 1
  | .float x => x = .fin 1
  | _ => false

variable [IsStrictOrderedRing α] (F : FloatFormat α)

/-- `_number`. -/
def number : PyVal α → Except PyErr (Option (PyFloat α))
  | .int i => (PyVal.toFloat F (.int i)).map some
  | .float x => .ok (some x)
  | _ => .ok none

/-- `_timestamp_or_inf` and `_timestamp_or_neg_inf`, by their default. -/
def timestampOr (default : PyFloat α) (row : Row α) : Except PyErr (PyFloat α) :=
  (number F (field row "timestamp")).map fun value => value.getD default

/-- `_remember_earliest`. -/
def rememberEarliest (target : Dict String (Row α)) (row : Row α) :
    Except PyErr (Dict String (Row α)) := do
  let id ← strOf pyStr (field row "episode_id")
  match target.get? id with
  | none => .ok (target.set id row)
  | some current =>
    let stamp ← timestampOr F .posInf row
    let old ← timestampOr F .posInf current
    .ok (if stamp < old then target.set id row else target)

/-- `_remember_latest`. -/
def rememberLatest (target : Dict String (Row α)) (row : Row α) :
    Except PyErr (Dict String (Row α)) := do
  let id ← strOf pyStr (field row "episode_id")
  match target.get? id with
  | none => .ok (target.set id row)
  | some current =>
    let stamp ← timestampOr F .negInf row
    let old ← timestampOr F .negInf current
    .ok (if old ≤ stamp then target.set id row else target)

end Rows

/-! ## Episodes -/

section Closes

variable {α : Type}

/-- The condition of the first loop of `_episode_closes`. -/
def isExplicitClose (row : Row α) : Bool :=
  reads row "record_type" "decision_episode" && reads row "event_type" "episode_closed" &&
    present row "episode_id"

/-- A row with the three fields an inferred close overwrites. -/
def closedAs (row : Row α) (closeReason closedBy : String) (commanderInvolved : Bool) : Row α :=
  let row := Dict.assign row "close_reason" (.str closeReason)
  let row := Dict.assign row "closed_by" (.str closedBy)
  Dict.assign row "commander_involved" (.bool commanderInvolved)

/-- `_inferred_episode_close`. -/
def inferredEpisodeClose (row : Row α) : Except PyErr (Option (Row α)) :=
  if !present row "episode_id" then .ok none
  else if reads row "record_type" "self_action_result" then
    if reads row "verdict" "accepted" then
      .ok (some (closedAs row "local" "self_action_gate" false))
    else (isOneOf ["rejected", "violated"] (field row "verdict")).map fun refused =>
      if refused then some (closedAs row "rejected" "self_action_gate" false) else none
  else if reads row "record_type" "task_lifecycle" then
    if reads row "event_type" "local_agreement_executed" then
      .ok (some (closedAs row "local" "self_action_gate" false))
    else if reads row "event_type" "commander_override" then
      .ok (some (closedAs row "commander" "commander" true))
    else .ok none
  else .ok none

variable [Field α] [LinearOrder α] [IsStrictOrderedRing α]
  (pyStr : PyVal α → Except PyErr String) (F : FloatFormat α)

/-- The second loop of `_episode_closes`. -/
def rememberInferred (closes : Dict String (Row α)) (row : Row α) :
    Except PyErr (Dict String (Row α)) := do
  match ← inferredEpisodeClose row with
  | none => .ok closes
  | some inferred => rememberLatest pyStr F closes inferred

/-- `_episode_closes`. -/
def episodeCloses (rows : List (Row α)) : Except PyErr (Dict String (Row α)) := do
  let closes ← (rows.filter isExplicitClose).foldlM (rememberLatest pyStr F) .empty
  rows.foldlM (rememberInferred pyStr F) closes

end Closes

section Starts

variable {α : Type} [Field α] [LinearOrder α]

/-- `row.get("requires_local_decision", True)`, as a condition. -/
def requiresLocalDecision (row : Row α) : Bool :=
  WebBridge.truthy ((Dict.find row "requires_local_decision").getD (.bool true))

/-- The condition of the first loop of `_episode_starts`. -/
def isExplicitStart (row : Row α) : Bool :=
  reads row "record_type" "decision_episode" && reads row "event_type" "episode_started" &&
    present row "episode_id" && requiresLocalDecision row

/-- `_is_inferred_episode_start`. -/
def isInferredEpisodeStart (row : Row α) : Bool :=
  if !present row "episode_id" || !requiresLocalDecision row then false
  else if reads row "record_type" "conversation_event" then
    match field row "candidate_action" with
    | .dict _ => true
    | _ => false
  else if reads row "record_type" "task_lifecycle" then
    reads row "event_type" "local_agreement_created"
  else reads row "record_type" "self_action_result"

/-- `_locally_closed`. -/
def locallyClosed (row : Row α) : Except PyErr Bool := do
  let refused ← isOneOf ["rejected", "violated"] (field row "verdict")
  if refused || truthy (field row "commander_involved") then .ok false else
  let overruled ← isOneOf ["rejected", "violated", "commander"] (field row "close_reason")
  if overruled then .ok false
  else if reads row "record_type" "self_action_result" then .ok (reads row "verdict" "accepted")
  else if reads row "record_type" "task_lifecycle" then
    .ok (reads row "event_type" "local_agreement_executed")
  else
    let reason ← isOneOf ["local", "self_action", "local_agreement"] (field row "close_reason")
    if reason then .ok true
    else isOneOf ["self_action_gate", "bot_conversation"] (field row "closed_by")

/-- `_is_deadlock_start`. -/
def isDeadlockStart (row : Row α) : Bool :=
  let named (fields : Row α) : Bool :=
    truthy (field fields "deadlock") || reads fields "trigger" "deadlock"
  named row || named (dictField row "metadata") || named (dictField row "detail")

variable [IsStrictOrderedRing α] (pyStr : PyVal α → Except PyErr String) (F : FloatFormat α)

/-- `_episode_starts`. -/
def episodeStarts (rows : List (Row α)) : Except PyErr (Dict String (Row α)) := do
  let starts ← (rows.filter isExplicitStart).foldlM (rememberEarliest pyStr F) .empty
  (rows.filter isInferredEpisodeStart).foldlM (rememberEarliest pyStr F) starts

/-- One turn of the loop of `_agreement_latencies`. -/
def addLatency (starts : Dict String (Row α)) (latencies : List (PyFloat α)) (row : Row α) :
    Except PyErr (List (PyFloat α)) :=
  if !reads row "event_type" "local_agreement_created" then .ok latencies else do
    match ← episodeId pyStr row with
    | none => .ok latencies
    | some id => match starts.get? id with
      | none => .ok latencies
      | some start =>
        let startedAt ← number F (field start "timestamp")
        let agreedAt ← number F (field row "timestamp")
        match startedAt, agreedAt with
        | some started, some agreed =>
          .ok (if started ≤ agreed then latencies ++ [F.sub agreed started] else latencies)
        | _, _ => .ok latencies

/-- `_agreement_latencies`. -/
def agreementLatencies (rows : List (Row α)) (starts : Dict String (Row α)) :
    Except PyErr (List (PyFloat α)) :=
  rows.foldlM (addLatency pyStr F starts) []

/-- `_communication_counts`. -/
def communicationCounts (rows : List (Row α)) : Except PyErr (ℕ × ℕ × ℕ) :=
  (countM locallyClosed rows).map fun resolved =>
    (resolved, (rows.map fun row => nonNegativeInt (field row "turns")).sum,
      (rows.map fun row => nonNegativeInt (field row "tokens")).sum)

end Starts

/-! ## Reviews -/

section Reviews

variable {α : Type} (pyStr : PyVal α → Except PyErr String)

/-- `f"{name}:{row[name]}"`. -/
def keyText (row : Row α) (name : String) : Except PyErr String :=
  (strOf pyStr (field row name)).map fun text => name ++ ":" ++ text

/-- `f"row:{fallback_index}"`. -/
def rowKey (index : ℕ) : String := "row:" ++ toString index

/-- `_decision_key`. -/
def decisionKey (row : Row α) (index : ℕ) : Except PyErr String :=
  match ["proposal_id", "event_id", "episode_id"].find? (present row) with
  | some name => keyText pyStr row name
  | none => .ok (rowKey index)

/-- `_has_specific_decision_id`. -/
def hasSpecificDecisionId (row : Row α) : Bool :=
  present row "proposal_id" || present row "event_id"

/-- `_review_aliases`. -/
def reviewAliases (row : Row α) (index : ℕ) : Except PyErr (List String) := do
  let aliases ← (["proposal_id", "event_id"].filter (present row)).mapM (keyText pyStr row)
  let id ← episodeId pyStr row
  let aliases := if aliases.isEmpty then (id.map fun id => "episode_id:" ++ id).toList else aliases
  .ok (if aliases.isEmpty then [rowKey index] else aliases)

/-- `_decision_aliases`. -/
def decisionAliases (row : Row α) (index : ℕ) : Except PyErr (List String) :=
  ((["proposal_id", "event_id", "episode_id"].filter (present row)).mapM (keyText pyStr row)).map
    fun aliases => if aliases.isEmpty then [rowKey index] else aliases

/-- `_review_key_for_row`. -/
def reviewKeyForRow (aliases : Dict String String) (row : Row α) (index : ℕ) :
    Except PyErr String := do
  let names ← decisionAliases pyStr row index
  match names.findSome? aliases.get? with
  | some key => .ok key
  | none => decisionKey pyStr row index

/-- `_is_commander_override_verdict`. -/
def isCommanderOverrideVerdict : PyVal α → Except PyErr Bool :=
  isOneOf ["reject", "rejected", "override"]

/-- The collections of `_commander_override_counts`. -/
structure Reviews where
  reviewKeys : Finset String
  overrideKeys : Finset String
  reviewAliases : Dict String String
  episodesWithSpecificReviews : Finset String

/-- The collections before the first row. -/
def Reviews.empty : Reviews := ⟨∅, ∅, .empty, ∅⟩

variable [Field α] [LinearOrder α]

/-- The condition of the first loop of `_commander_override_counts`. -/
def isReview (row : Row α) : Bool :=
  reads row "record_type" "commander_review" && WebBridge.truthy (field row "verdict")

/-- One turn of the first loop of `_commander_override_counts`. -/
def noteReview (s : Reviews) (entry : Row α × ℕ) : Except PyErr Reviews :=
  if !isReview entry.1 then .ok s else do
    let key ← decisionKey pyStr entry.1 entry.2
    let id ← episodeId pyStr entry.1
    let aliases ← reviewAliases pyStr entry.1 entry.2
    let overridden ← isCommanderOverrideVerdict (field entry.1 "verdict")
    .ok
      { reviewKeys := insert key s.reviewKeys
        overrideKeys := if overridden then insert key s.overrideKeys else s.overrideKeys
        reviewAliases := aliases.foldl (fun d name => d.setDefault name key) s.reviewAliases
        episodesWithSpecificReviews :=
          if hasSpecificDecisionId entry.1 then id.toFinset ∪ s.episodesWithSpecificReviews
          else s.episodesWithSpecificReviews }

omit [Field α] [LinearOrder α] in
/-- One turn of the second loop of `_commander_override_counts`. -/
def noteOverride (reviews : Reviews) (overrideKeys : Finset String) (entry : Row α × ℕ) :
    Except PyErr (Finset String) :=
  if !reads entry.1 "event_type" "commander_override" then .ok overrideKeys else do
    let id ← episodeId pyStr entry.1
    if id.any (· ∈ reviews.episodesWithSpecificReviews) && !hasSpecificDecisionId entry.1 then
      .ok overrideKeys
    else
      let key ← reviewKeyForRow pyStr reviews.reviewAliases entry.1 entry.2
      .ok (insert key overrideKeys)

/-- `_commander_override_counts`. -/
def commanderOverrideCounts (rows : List (Row α)) : Except PyErr (ℕ × ℕ) := do
  let reviews ← rows.zipIdx.foldlM (noteReview pyStr) Reviews.empty
  let overrideKeys ← rows.zipIdx.foldlM (noteOverride pyStr reviews) reviews.overrideKeys
  let overrideCount := overrideKeys.card
  .ok (overrideCount,
    if reviews.reviewKeys.Nonempty then reviews.reviewKeys.card else overrideCount)

end Reviews

/-! ## Contracts and margins -/

section Contracts

variable {α : Type} (pyStr : PyVal α → Except PyErr String)

/-- The counters of `_contract_counts`, and the episodes with an evaluation of their own. -/
structure Contracts where
  violated : ℕ
  evaluable : ℕ
  unknown : ℕ
  explicitEpisodeIds : Finset String

/-- One turn of the first loop of `_contract_counts`. -/
def noteEvaluation (s : Contracts) (row : Row α) : Except PyErr Contracts :=
  if !reads row "record_type" "contract_evaluation" then .ok s else do
    let id ← episodeId pyStr row
    let s := { s with explicitEpisodeIds := id.toFinset ∪ s.explicitEpisodeIds }
    if reads row "verdict" "violated" then
      .ok { s with violated := s.violated + 1, evaluable := s.evaluable + 1 }
    else
      let kept ← isOneOf ["kept", "satisfied", "accepted"] (field row "verdict")
      if kept then .ok { s with evaluable := s.evaluable + 1 }
      else if reads row "verdict" "unknown" then .ok { s with unknown := s.unknown + 1 }
      else .ok s

/-- The episodes of the agreements that were created: `created_ids`. -/
def noteCreated (ids : Finset String) (row : Row α) : Except PyErr (Finset String) :=
  if reads row "record_type" "task_lifecycle" && reads row "event_type" "local_agreement_created"
  then (episodeId pyStr row).map fun id => id.toFinset ∪ ids
  else .ok ids

/-- One turn of the loop that fills `final_verdicts`. -/
def noteVerdict (verdicts : Dict String String) (row : Row α) :
    Except PyErr (Dict String String) :=
  if !present row "episode_id" then .ok verdicts
  else if reads row "record_type" "task_lifecycle" &&
    reads row "event_type" "local_agreement_executed"
  then (strOf pyStr (field row "episode_id")).map fun id => verdicts.set id "accepted"
  else if reads row "record_type" "self_action_result" then do
    let final ← isOneOf ["accepted", "rejected", "violated"] (field row "verdict")
    if final then
      let id ← strOf pyStr (field row "episode_id")
      let verdict ← strOf pyStr (field row "verdict")
      .ok (verdicts.set id verdict)
    else .ok verdicts
  else .ok verdicts

/-- `_contract_counts`: the violated, the evaluable and the unknown agreements. -/
def contractCounts (rows : List (Row α)) : Except PyErr (ℕ × ℕ × ℕ) := do
  let s ← rows.foldlM (noteEvaluation pyStr) ⟨0, 0, 0, ∅⟩
  let created ← rows.foldlM (noteCreated pyStr) ∅
  let verdicts ← rows.foldlM (noteVerdict pyStr) .empty
  let inferred := created \ s.explicitEpisodeIds
  let ending (ends : Option String → Bool) : ℕ :=
    (inferred.filter fun id => ends (verdicts.get? id)).card
  let isAccepted (verdict : Option String) : Bool := verdict == some "accepted"
  let isBroken (verdict : Option String) : Bool :=
    verdict == some "rejected" || verdict == some "violated"
  let accepted := ending isAccepted
  let broken := ending isBroken
  let pending := ending fun verdict => !isAccepted verdict && !isBroken verdict
  .ok (s.violated + broken, s.evaluable + accepted + broken, s.unknown + pending)

variable [Field α] [LinearOrder α] [IsStrictOrderedRing α] (F : FloatFormat α)

/-- The value of one row in `_safety_margins`. -/
def safetyMargin (row : Row α) : Except PyErr (Option (PyFloat α)) :=
  if reads row "record_type" "safety_margin" then
    number F ((Dict.find row "min_distance").getD (field row "distance"))
  else number F (field (dictField row "detail") "safety_margin_after_agreement")

/-- `_safety_margins`. -/
def safetyMargins (rows : List (Row α)) : Except PyErr (List (PyFloat α)) :=
  (rows.mapM (safetyMargin F)).map List.reduceOption

end Contracts

/-! ## The metrics -/

section Metrics

variable {α : Type}

/-- `ConversationBenchMetrics`. -/
structure ConversationBenchMetrics (α : Type) where
  trafficDecisionEpisodes : ℕ
  locallyClosedEpisodes : ℕ
  autonomyRatio : Option (PyFloat α)
  commanderReviewedLocalProposals : ℕ
  commanderOverrideCount : ℕ
  commanderOverrideRate : Option (PyFloat α)
  agreementLatencies : List (PyFloat α)
  agreementLatencyP50 : Option (PyFloat α)
  agreementLatencyP95 : Option (PyFloat α)
  detectedDeadlocks : ℕ
  locallyResolvedDeadlocks : ℕ
  localResolutionRate : Option (PyFloat α)
  resolvedEpisodes : ℕ
  totalTurns : ℕ
  totalTokens : ℕ
  communicationEfficiencyPerTurn : Option (PyFloat α)
  communicationEfficiencyPerToken : Option (PyFloat α)
  evaluableAgreements : ℕ
  violatedAgreements : ℕ
  unknownAgreements : ℕ
  contractViolationRate : Option (PyFloat α)
  contractUnknownRate : Option (PyFloat α)
  safetyMarginsAfterAgreement : List (PyFloat α)
  safetyMarginMin : Option (PyFloat α)

/-- `[row for row in rows if isinstance(row, dict)]`. -/
def materialized (rows : List (PyVal α)) : List (Row α) :=
  rows.filterMap fun
    | .dict row => some row
    | _ => none

variable [Field α] [LinearOrder α] [IsStrictOrderedRing α] (F : FloatFormat α)

/-- `_ratio`. -/
def ratio (numerator denominator : ℕ) : Except PyErr (Option (PyFloat α)) :=
  if denominator = 0 then .ok none
  else
    let quotient := F.round (numerator / denominator)
    if quotient.isFinite then .ok (some quotient) else .error .overflowError

omit [IsStrictOrderedRing α] in
/-- The episodes whose start is a deadlock: `deadlock_ids`. -/
def deadlockIds (starts : Dict String (Row α)) : List String :=
  (starts.entries.filter fun entry => isDeadlockStart entry.2).map Prod.fst

/-- `compute_conversation_metrics`. -/
def computeConversationMetrics (pyStr : PyVal α → Except PyErr String)
    (percentile : List (PyFloat α) → ℕ → Option (PyFloat α)) (rows : List (PyVal α)) :
    Except PyErr (ConversationBenchMetrics α) := do
  let rows := materialized rows
  let starts ← episodeStarts pyStr F rows
  let closes ← episodeCloses pyStr F rows
  let locallyClosedEpisodes ← countM locallyClosed (closes.entries.map Prod.snd)
  let latencies ← agreementLatencies pyStr F rows starts
  let deadlocks := deadlockIds starts
  let resolvedDeadlocks ← countM (fun id => locallyClosed (closes.getD id [])) deadlocks
  let (overrideCount, reviewedCount) ← commanderOverrideCounts pyStr rows
  let (resolved, turns, tokens) ← communicationCounts (closes.entries.map Prod.snd)
  let (violated, evaluable, unknown) ← contractCounts pyStr rows
  let margins ← safetyMargins F rows
  .ok
    { trafficDecisionEpisodes := starts.entries.length
      locallyClosedEpisodes := locallyClosedEpisodes
      autonomyRatio := ← ratio F locallyClosedEpisodes starts.entries.length
      commanderReviewedLocalProposals := reviewedCount
      commanderOverrideCount := overrideCount
      commanderOverrideRate := ← ratio F overrideCount reviewedCount
      agreementLatencies := latencies
      agreementLatencyP50 := percentile latencies 50
      agreementLatencyP95 := percentile latencies 95
      detectedDeadlocks := deadlocks.length
      locallyResolvedDeadlocks := resolvedDeadlocks
      localResolutionRate := ← ratio F resolvedDeadlocks deadlocks.length
      resolvedEpisodes := resolved
      totalTurns := turns
      totalTokens := tokens
      communicationEfficiencyPerTurn := ← ratio F resolved turns
      communicationEfficiencyPerToken := ← ratio F resolved tokens
      evaluableAgreements := evaluable
      violatedAgreements := violated
      unknownAgreements := unknown
      contractViolationRate := ← ratio F violated evaluable
      contractUnknownRate := ← ratio F unknown (evaluable + unknown)
      safetyMarginsAfterAgreement := margins
      safetyMarginMin := match margins with
        | [] => none
        | margin :: margins => some (margins.foldl PyFloat.pyMin margin) }

end Metrics

end ConversationMetrics

end MiniatureWarehouse
