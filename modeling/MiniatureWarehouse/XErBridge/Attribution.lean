import MiniatureWarehouse.XErBridge.Completion

/-!
# Which goal a completion is attributed to

The bridge as a machine, and the question of whether a task it marks is the task whose goal
ended.  The answer is not in the state of the bridge: an entry of the in-flight map names a node
but not the plan it was dispatched under, and a result names a robot but not the goal.  So every
result carries, unread by the program, the dispatch that produced it, and next to the bridge runs
a record of the dispatch each in-flight entry was made for (`traced`).

The two attributions can differ: a second copy of a result is applied to the robot's next task,
and a result of a superseded plan to a task of the current one.
-/

namespace MiniatureWarehouse

namespace XErBridge

/-- A dispatch: a node of a plan handed to a robot. -/
structure Dispatch where
  planId : String
  nodeId : String
  deriving DecidableEq, Repr

/-- A queued completion, with the dispatch whose goal ended (which nothing reads). -/
structure Message where
  payload : GoalResult
  origin : Option Dispatch
  deriving DecidableEq, Repr

/-- A call of `mark_succeeded` or `mark_failed`: the pair it was made for, and the completion it
was made on. -/
structure Mark where
  planId : String
  nodeId : String
  status : TaskStatus
  message : Message
  deriving DecidableEq, Repr

/-- Where the loop thread is: draining the queue, about to run a cycle, or ended by a raise. -/
inductive Phase
  | draining
  | cycling
  | stopped
  deriving DecidableEq, Repr

/-- The state of `XErBridge`. -/
structure Bridge (α : Type*) where
  planId : Option String
  inflight : Dict String String
  pending : List Message
  store : TaskGraphStore α
  phase : Phase

/-- What happens to the bridge: the callback of the result topic, one turn of the draining loop,
one planning cycle. -/
inductive Event (α : Type*)
  | goalResultMsg (origin : Option Dispatch) (data : String)
  | drainTurn
  | cycle (c : Cycle α)

/-- A bridge that has done nothing. -/
def Bridge.init {α : Type*} : Bridge α := ⟨none, .empty, [], .empty, .draining⟩

section Machine

variable {α : Type*} (scan : JsonScan α)

/-- One turn of the loop of `apply_pending_completions`: with no plan the queue is dropped, else
its first completion is applied; an empty queue ends the draining. -/
def drainTurn (s : Bridge α) : Bridge α × Option Mark :=
  match s.planId with
  | none => ({ s with pending := [], phase := .cycling }, none)
  | some planId =>
    match s.pending with
    | [] => ({ s with phase := .cycling }, none)
    | m :: pending =>
      match applyGoalResult m.payload planId s.inflight s.store with
      | .error _ => ({ s with pending := pending, phase := .stopped }, none)
      | .ok (inflight, store, outcome) =>
        ({ s with pending := pending, inflight := inflight, store := store },
          outcome.marked.map fun (nodeId, status) => ⟨planId, nodeId, status, m⟩)

/-- The rest of an iteration of `_run_cycles`: the cycle, the plan id, and the fold. -/
def cycleTurn (s : Bridge α) (c : Cycle α) : Bridge α :=
  match runXErCycle s.store c with
  | (store, .error _) => { s with store := store, phase := .stopped }
  | (store, .ok outcome) =>
    { s with
      store := store
      planId := outcome.planId <|> s.planId
      inflight := if outcome.skippedReason.isSome then s.inflight
        else (foldInflight s.inflight outcome.committed).1
      phase := .draining }

/-- The bridge as a machine that puts out the marks it makes.  A turn of the loop thread that is
not due leaves it as it is. -/
def bridge : Machine (Bridge α) (Event α) (Option Mark) where
  step s
    | .goalResultMsg origin data =>
      match parseGoalResult scan data with
      | .ok (some g) => ({ s with pending := s.pending ++ [⟨g, origin⟩] }, none)
      | _ => (s, none)
    | .drainTurn => if s.phase = .draining then drainTurn s else (s, none)
    | .cycle c => if s.phase = .cycling then (cycleTurn s c, none) else (s, none)

/-! ## The record of dispatches -/

/-- The dispatch each in-flight entry was made for. -/
abbrev Recorded := String → Option Dispatch

/-- The record after a step: an entry that was there keeps its dispatch, a new one was made under
the plan of the cycle that has just ended. -/
def Recorded.next (recorded : Recorded) (before after : Bridge α) : Recorded := fun robot =>
  match after.inflight.get? robot with
  | none => none
  | some nodeId =>
    if before.inflight.contains robot then recorded robot
    else after.planId.map fun planId => ⟨planId, nodeId⟩

/-- The bridge with the record next to it, which it does not read. -/
def traced : Machine (Bridge α × Recorded) (Event α) (Option Mark) where
  step t e :=
    let r := (bridge scan).step t.1 e
    ((r.1, t.2.next t.1 r.1), r.2)

/-- The start of a traced run. -/
def start : Bridge α × Recorded := (.init, fun _ => none)

variable {scan}

/-- Recording changes nothing about the bridge: it makes the same marks. -/
lemma emitted_traced (t : Bridge α × Recorded) (es : List (Event α)) :
    (traced scan).emitted t es = (bridge scan).emitted t.1 es := by
  induction es generalizing t with
  | nil => rfl
  | cons e es ih =>
    rw [Machine.emitted_cons, Machine.emitted_cons, ih]
    rfl

/-- A step that applies a completion is attributed when the completion belongs to the entry it is
applied to: if the robot has an entry for a task that is running under the current plan, and the
result is one of the two known ones, then the result was produced by the dispatch the entry was
made for, and that dispatch was made under the current plan. -/
def Attributed (t : Bridge α × Recorded) : Event α → Prop
  | .drainTurn =>
    match t.1.pending.head?, t.1.planId with
    | some m, some planId =>
      match t.2 m.payload.robot with
      | some d =>
        RunningUnder t.1.store planId d.nodeId →
          m.payload.result = "succeeded" ∨ m.payload.result = "failed" →
            m.origin = some d ∧ d.planId = planId
      | none => True
    | _, _ => True
  | _ => True

instance (t : Bridge α × Recorded) (e : Event α) : Decidable (Attributed t e) := by
  unfold Attributed
  split
  · split
    · split <;> infer_instance
    · infer_instance
  · infer_instance

/-- The record names the node of every entry. -/
def Faithful (t : Bridge α × Recorded) : Prop :=
  ∀ robot, t.1.inflight.get? robot = (t.2 robot).map Dispatch.nodeId

/-! ## Steps -/

/-- What a turn of the draining loop does: it makes no mark and leaves the in-flight map, or it
applies the first completion of the queue under the current plan. -/
lemma drainTurn_cases (s : Bridge α) :
    ((drainTurn s).1.inflight = s.inflight ∧ (drainTurn s).2 = none) ∨
      ∃ planId m pending store outcome, s.planId = some planId ∧ s.pending = m :: pending ∧
        applyGoalResult m.payload planId s.inflight s.store =
          .ok ((drainTurn s).1.inflight, store, outcome) ∧
        (drainTurn s).2 = outcome.marked.map fun (nodeId, status) =>
          ⟨planId, nodeId, status, m⟩ := by
  cases hplan : s.planId with
  | none => exact .inl (by simp [drainTurn, hplan])
  | some planId =>
    cases hpending : s.pending with
    | nil => exact .inl (by simp [drainTurn, hplan, hpending])
    | cons m pending =>
      cases happly : applyGoalResult m.payload planId s.inflight s.store with
      | error e => exact .inl (by simp [drainTurn, hplan, hpending, happly])
      | ok applied =>
        obtain ⟨inflight, store, outcome⟩ := applied
        refine .inr ⟨planId, m, pending, store, outcome, rfl, rfl, ?_, ?_⟩
        · simp only [drainTurn, hplan, hpending, happly]
        · simp only [drainTurn, hplan, hpending, happly]

variable (scan) in
/-- What a step can do to the in-flight map: leave it, drop a robot that reported, or fold in the
committed pairs of a cycle, whose plan is then the current one. -/
lemma inflight_step (s : Bridge α) (e : Event α) :
    ((bridge scan).step s e).1.inflight = s.inflight ∨
      (∃ robot, ((bridge scan).step s e).1.inflight = s.inflight.erase robot) ∨
      ∃ planId committed, ((bridge scan).step s e).1.planId = some planId ∧
        ((bridge scan).step s e).1.inflight = (foldInflight s.inflight committed).1 := by
  cases e with
  | goalResultMsg origin data =>
    simp only [bridge]
    split <;> exact .inl rfl
  | drainTurn =>
    simp only [bridge]
    split_ifs
    · rcases drainTurn_cases s with
        ⟨hkeep, -⟩ | ⟨planId, m, pending, store, outcome, -, -, happly, -⟩
      · exact .inl hkeep
      · rcases (applyGoalResult_spec happly).1 with hkeep | hdrop
        · exact .inl hkeep
        · exact .inr (.inl ⟨m.payload.robot, hdrop⟩)
    · exact .inl rfl
  | cycle c =>
    simp only [bridge, cycleTurn]
    split_ifs
    · split
      · exact .inl rfl
      · rename_i store outcome hrun
        by_cases hskip : outcome.skippedReason.isSome = true
        · exact .inl (if_pos hskip)
        · obtain ⟨planId, hplan⟩ := planId_of_dispatched hrun (by simpa using hskip)
          refine .inr (.inr ⟨planId, outcome.committed, ?_, if_neg hskip⟩)
          simp only [hplan]
          rfl
    · exact .inl rfl

/-- A step changes no entry to another node: it keeps it or drops it. -/
lemma inflight_step_of_some {s : Bridge α} {e : Event α} {robot nodeId nodeId' : String}
    (hbefore : s.inflight.get? robot = some nodeId)
    (hafter : ((bridge scan).step s e).1.inflight.get? robot = some nodeId') :
    nodeId' = nodeId := by
  rcases inflight_step scan s e with hkeep | ⟨robot', hdrop⟩ | ⟨_, committed, -, hfold⟩
  · rw [hkeep, hbefore] at hafter
    exact (Option.some.inj hafter).symm
  · rw [hdrop, Dict.get?_erase] at hafter
    split_ifs at hafter
    rw [hbefore] at hafter
    exact (Option.some.inj hafter).symm
  · rw [hfold, get?_foldInflight_of_some hbefore] at hafter
    exact (Option.some.inj hafter).symm

/-- An entry is made by a cycle, which knows its plan. -/
lemma planId_step_of_new {s : Bridge α} {e : Event α} {robot nodeId : String}
    (hbefore : s.inflight.get? robot = none)
    (hafter : ((bridge scan).step s e).1.inflight.get? robot = some nodeId) :
    ∃ planId, ((bridge scan).step s e).1.planId = some planId := by
  rcases inflight_step scan s e with hkeep | ⟨robot', hdrop⟩ | ⟨planId, _, hplan, -⟩
  · rw [hkeep, hbefore] at hafter
    cases hafter
  · rw [hdrop, Dict.get?_erase, hbefore] at hafter
    split_ifs at hafter
  · exact ⟨planId, hplan⟩

/-- **Step, the record.**  Every step keeps the record faithful. -/
lemma faithful_step {t : Bridge α × Recorded} (h : Faithful t) (e : Event α) :
    Faithful ((traced scan).step t e).1 := by
  intro robot
  simp only [traced, Recorded.next]
  cases hafter : ((bridge scan).step t.1 e).1.inflight.get? robot with
  | none => rfl
  | some nodeId =>
    simp only
    cases hbefore : t.1.inflight.get? robot with
    | some nodeId' =>
      have hin : t.1.inflight.contains robot = true :=
        (Dict.contains_iff _ _).mpr ⟨nodeId', hbefore⟩
      have hkept : nodeId = nodeId' := inflight_step_of_some hbefore hafter
      rw [if_pos hin, ← h robot, hbefore, hkept]
    | none =>
      have hnotin : ¬ t.1.inflight.contains robot = true := by
        simp [Dict.contains, hbefore]
      obtain ⟨planId, hplan⟩ := planId_step_of_new hbefore hafter
      rw [if_neg hnotin, hplan]
      rfl

/-- **Step, the marks.**  An attributed step marks only the pair whose goal ended. -/
lemma mark_step {t : Bridge α × Recorded} {e : Event α} {k : Mark} (h : Faithful t)
    (he : Attributed t e) (hk : k ∈ ((traced scan).step t e).2) :
    k.message.origin = some ⟨k.planId, k.nodeId⟩ := by
  cases e with
  | goalResultMsg origin data =>
    simp only [traced, bridge] at hk
    split at hk <;> cases hk
  | cycle c =>
    simp only [traced, bridge] at hk
    split_ifs at hk <;> cases hk
  | drainTurn =>
    simp only [traced, bridge] at hk
    split_ifs at hk
    · rcases drainTurn_cases t.1 with
        ⟨-, hnone⟩ | ⟨planId, m, pending, store, outcome, hplan, hpending, happly, hmark⟩
      · rw [hnone] at hk
        cases hk
      · rw [hmark] at hk
        obtain ⟨⟨nodeId, status⟩, hmarked, rfl⟩ := Option.map_eq_some_iff.mp hk
        obtain ⟨hentry, hrunning, hresult⟩ := (applyGoalResult_spec happly).2 nodeId status hmarked
        -- the entry that is marked was made for a dispatch of the same node
        rw [h m.payload.robot] at hentry
        obtain ⟨d, hd, rfl⟩ := Option.map_eq_some_iff.mp hentry
        have hattributed : m.origin = some d ∧ d.planId = planId := by
          simp only [Attributed, hpending, List.head?_cons, hplan, hd] at he
          exact he hrunning hresult
        obtain ⟨horigin, rfl⟩ := hattributed
        exact horigin
    · cases hk

end Machine

/-! ### Two results applied to the wrong task -/

/-- A result of the first robot as the navigation stack spells it. -/
def resultText : String :=
  "\x7b\"robot\": \"bot1\", \"task_id\": \"nav_001\", \"result\": \"succeeded\"\x7d"

/-- A scanner that knows this one text. -/
def resultScan : JsonScan ℚ := fun s =>
  if s = resultText then
    .ok (.dict [("robot", .str "bot1"), ("task_id", .str "nav_001"), ("result", .str "succeeded")])
  else .error .valueError

/-- A cycle that plans this graph, compiles every ready task, and has every dispatch accepted. -/
def acceptedCycle (planId : String) (taskGraph : List TaskNode) : Event ℚ :=
  .cycle (.planned { planId := planId, taskGraph := taskGraph }
    (fun ready => ready.map fun task => ⟨task.robot, task.target.getD "", task.taskId⟩)
    fun _ => .ok true)

/-- Two tasks of the first robot, one after the other. -/
def redThenBlue : List TaskNode :=
  [{ id := "t1", robot := "bot1", action := "navigate", target := some "red" },
    { id := "t2", robot := "bot1", action := "navigate", target := some "blue",
      after := some "t1.completed" }]

/-- The first task is dispatched and its result applied. -/
def onceRun : List (Event ℚ) :=
  [.drainTurn, acceptedCycle "p1" redThenBlue, .goalResultMsg (some ⟨"p1", "t1"⟩) resultText,
    .drainTurn]

/-- The second task is dispatched, and the result of the first arrives once more. -/
def duplicateRun : List (Event ℚ) :=
  onceRun ++ [.drainTurn, acceptedCycle "p1" redThenBlue,
    .goalResultMsg (some ⟨"p1", "t1"⟩) resultText, .drainTurn]

/-- A new plan gives its task of the same name to the other robot, and the result of the old task
arrives late. -/
def supersededRun : List (Event ℚ) :=
  [.drainTurn, acceptedCycle "p1" redThenBlue, .drainTurn,
    acceptedCycle "p2"
      [{ id := "t1", robot := "bot2", action := "navigate", target := some "red" }],
    .goalResultMsg (some ⟨"p1", "t1"⟩) resultText, .drainTurn]

end XErBridge

end MiniatureWarehouse
