import MiniatureWarehouse.WebBridge.Publication

/-!
# The store of the web console

The store holds what one run has shown so far.  An event of another run empties it first; of the
same run, an event that is no newer than the last one applied is discarded.

Arrays only ever grow at their end and are cut at their beginning.  A frame that is no event of the
gateway is left out: the gateway sends none.
-/

namespace MiniatureWarehouse

namespace WebConsole

open WebBridge (ObsEvent ClientView)

/-- `MAX_CONVERSATION`. -/
def maxConversation : ℕ := 2000

/-- `MAX_COMMANDER`. -/
def maxCommander : ℕ := 1000

/-- `MAX_EMERGENCIES`. -/
def maxEmergencies : ℕ := 500

/-- `MAX_NEGOTIATIONS`. -/
def maxNegotiations : ℕ := 200

/-- `MAX_NEG_EVENTS`. -/
def maxNegEvents : ℕ := 100

/-- `capPush`. -/
def capPush {β : Type} (arr : List β) (item : β) (max : ℕ) : List β :=
  (if max ≤ arr.length then arr.drop (arr.length - max + 1) else arr) ++ [item]

inductive NegotiationStatus
  | active
  | agreed
  | aborted
  deriving DecidableEq

/-- One negotiation, with the events that belong to it. -/
structure Negotiation (α : Type) where
  id : String
  genId : Option ℤ
  status : NegotiationStatus
  startedSeq : ℕ
  events : List (ObsEvent α)

/-- What the header of a run says.  The values are cast, not checked. -/
structure RunHeaderInfo (α : Type) where
  runId : PyVal α
  mode : PyVal α
  provider : PyVal α
  scenario : PyVal α

/-- Of `GET /config`, what the store reads. -/
structure RuntimeConfig where
  mode : String

inductive ConnectionStatus
  | idle
  | connecting
  | backfilling
  | open
  | closed
  deriving DecidableEq

structure StoreState (α : Type) where
  config : Option RuntimeConfig
  status : ConnectionStatus
  runId : Option String
  lastSeq : ℕ
  run : RunHeaderInfo α
  snapshots : List (String × PyVal α)
  snapshotTs : Option String
  conversation : List (ObsEvent α)
  negotiations : List (Negotiation α)
  commanderLog : List (ObsEvent α)
  emergencies : List (ObsEvent α)
  malformedCount : ℕ

section Reduce

variable {α : Type}

/-- `keyedNegId`.  An empty `negotiation_id` counts as none. -/
def keyedNegId (e : ObsEvent α) : Option String :=
  match e.negotiationId with
  | some id => if id = "" then e.genId.map fun gen => "gen:" ++ toString gen else some id
  | none => e.genId.map fun gen => "gen:" ++ toString gen

/-- Where the last negotiation that is still active stands. -/
def lastActive (list : List (Negotiation α)) : Option ℕ :=
  (list.reverse.findIdx? fun n => decide (n.status = .active)).map fun i => list.length - 1 - i

/-- `applyNego`. -/
def applyNego (list : List (Negotiation α)) (e : ObsEvent α) : List (Negotiation α) :=
  let status : NegotiationStatus :=
    if e.kind = "proposal" then .agreed else if e.kind = "abort" then .aborted else .active
  let key := keyedNegId e
  let idx : Option ℕ := match key with
    | some id => list.findIdx? fun (n : Negotiation α) => decide (n.id = id)
    | none => lastActive list
  match idx.bind fun i => list[i]?.map (Prod.mk i) with
  | none =>
    capPush list ⟨key.getD ("orphan:" ++ toString e.seq), e.genId, status, e.seq, [e]⟩
      maxNegotiations
  | some (i, cur) =>
    list.set i
      { cur with
        genId := cur.genId.or e.genId
        -- an open negotiation never overwrites a closed one
        status := if status = .active then cur.status else status
        events := capPush cur.events e maxNegEvents }

/-- `EMPTY_RUN`. -/
def emptyRun : RunHeaderInfo α := ⟨.null, .str "none", .null, .null⟩

/-- The state with the fields of `RUN_RESET`. -/
def StoreState.runReset (s : StoreState α) : StoreState α :=
  { s with
    lastSeq := 0
    snapshots := []
    snapshotTs := none
    conversation := []
    negotiations := []
    commanderLog := []
    emergencies := []
    malformedCount := 0 }

/-- `value ?? fallback`. -/
def nullish (value : Option (PyVal α)) (fallback : PyVal α) : PyVal α :=
  match value with
  | none | some .null => fallback
  | some v => v

/-- The fields that an event sets, by its kind. -/
inductive Patch (α : Type)
  | snapshot (snapshots : List (String × PyVal α)) (snapshotTs : Option String)
  | conversation (events : List (ObsEvent α))
  | commanderLog (events : List (ObsEvent α))
  | emergencies (events : List (ObsEvent α))
  | run (header : RunHeaderInfo α)
  | negotiations (list : List (Negotiation α))
  | malformedCount (n : ℕ)
  | nothing

/-- `applyKind`. -/
def applyKind (s : StoreState α) (e : ObsEvent α) : Patch α :=
  let p := PyVal.dict e.payload
  match e.kind with
  | "snapshot" =>
    .snapshot
      (match p.get? "robots" with
        | some (.dict robots) => robots
        | _ => s.snapshots)
      (match p.get? "timestamp" with
        | some (.str timestamp) => some timestamp
        | _ => s.snapshotTs)
  | "speech" => .conversation (capPush s.conversation e maxConversation)
  | "reasoning" | "command" => .commanderLog (capPush s.commanderLog e maxCommander)
  | "emergency" => .emergencies (capPush s.emergencies e maxEmergencies)
  | "run_header" =>
    .run ⟨nullish (p.get? "run_id") (ObsEvent.optional .str e.runId),
      nullish (p.get? "mode") s.run.mode, nullish (p.get? "provider") .null,
      nullish (p.get? "scenario") .null⟩
  | "nego_start" | "turn_baton" | "proposal" | "abort" =>
    .negotiations (applyNego s.negotiations e)
  | "malformed" => .malformedCount (s.malformedCount + 1)
  | _ => .nothing

/-- The state with the fields of the patch. -/
def StoreState.patch (s : StoreState α) : Patch α → StoreState α
  | .snapshot snapshots snapshotTs => { s with snapshots := snapshots, snapshotTs := snapshotTs }
  | .conversation events => { s with conversation := events }
  | .commanderLog events => { s with commanderLog := events }
  | .emergencies events => { s with emergencies := events }
  | .run header => { s with run := header }
  | .negotiations list => { s with negotiations := list }
  | .malformedCount n => { s with malformedCount := n }
  | .nothing => s

/-- Does the event belong to another run than the one in view? -/
def isNewRun (s : StoreState α) (e : ObsEvent α) : Prop :=
  e.runId ≠ none ∧ s.runId ≠ none ∧ e.runId ≠ s.runId

instance (s : StoreState α) (e : ObsEvent α) : Decidable (isNewRun s e) :=
  inferInstanceAs (Decidable (_ ∧ _))

/-- `reduce`, with the fields it returns put in their place. -/
def reduce (s : StoreState α) (e : ObsEvent α) : Option (StoreState α) :=
  if ¬ isNewRun s e ∧ e.seq ≤ s.lastSeq then none
  else
    let base := if isNewRun s e then { s.runReset with run := emptyRun } else s
    -- the patch is read off `base`, but the header of a new run takes the mode of the config
    let target :=
      if isNewRun s e then
        { s.runReset with
          run := { emptyRun with mode := .str ((s.config.map RuntimeConfig.mode).getD "none") } }
      else s
    some { target.patch (applyKind base e) with lastSeq := e.seq, runId := e.runId.or base.runId }

/-- `applyEvent`. -/
def applyEvent (s : StoreState α) (e : ObsEvent α) : StoreState α := (reduce s e).getD s

/-- `setStatus`. -/
def setStatus (s : StoreState α) (status : ConnectionStatus) : StoreState α :=
  { s with status := status }

/-- Is a JSON value true where a condition is expected? -/
def truthy [Zero α] [DecidableEq α] : PyVal α → Bool
  | .null => false
  | .bool b => b
  | .int i => decide (i ≠ 0)
  | .float x => decide (x ≠ .fin 0 ∧ x ≠ .nan)
  | .str text => decide (text ≠ "")
  | .list _ | .dict _ => true

/-- `setConfig`. -/
def setConfig [Zero α] [DecidableEq α] (s : StoreState α) (c : RuntimeConfig) : StoreState α :=
  { s with
    config := some c
    run := if truthy s.run.runId then s.run else { s.run with mode := .str c.mode } }

/-- The store of a console that has just been opened. -/
def StoreState.initial : StoreState α :=
  ⟨none, .idle, none, 0, emptyRun, [], none, [], [], [], [], 0⟩

/-! ## Which events are applied -/

/-- The two fields that decide it. -/
def StoreState.view (s : StoreState α) : ClientView := ⟨s.lastSeq, s.runId⟩

/-- **The store follows its two fields**: it applies the events they ask for and moves them on as
they are moved on alone. -/
theorem view_reduce (s : StoreState α) (e : ObsEvent α) :
    (reduce s e).map StoreState.view = WebBridge.reduce s.view e := by
  have hnew : isNewRun s e ↔ e.runId ≠ none ∧ s.view.runId ≠ none ∧ e.runId ≠ s.view.runId :=
    Iff.rfl
  have hold : (¬ isNewRun s e ∧ e.seq ≤ s.lastSeq) ↔
      ¬ (e.runId ≠ none ∧ s.view.runId ≠ none ∧ e.runId ≠ s.view.runId) ∧
        e.seq ≤ s.view.lastSeq := Iff.rfl
  unfold reduce WebBridge.reduce
  by_cases hdiscard : ¬ isNewRun s e ∧ e.seq ≤ s.lastSeq
  · rw [if_pos hdiscard, if_pos (hold.mp hdiscard)]
    rfl
  · rw [if_neg hdiscard, if_neg (fun h => hdiscard (hold.mpr h))]
    by_cases hrun : isNewRun s e
    · simp only [if_pos hrun]
      rfl
    · simp only [if_neg hrun]
      rfl

end Reduce

end WebConsole

end MiniatureWarehouse
