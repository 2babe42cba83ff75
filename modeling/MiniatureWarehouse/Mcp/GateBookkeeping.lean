import MiniatureWarehouse.Framework.Runs
import MiniatureWarehouse.Mcp.PolicyGate
import Mathlib.Algebra.Order.Field.Rat

/-!
# The bookkeeping of the gate

Four tables and a counter are kept by the gate, and each of its operations updates a different
part of them.  What ties them together is that a robot with a reservation has an active task, that
no two robots have the same one, and that every active task carries a number the counter has
already passed (`Bookkeeping`).

This file runs the gate on its own: validations with whatever the state file and the clock show
them, cancels in both forms, and the emergency flags.  The ids it hands out are all different, and
what a validation has accepted can be read off the answers alone: the robot was not flagged, its
snapshot was fresh, and its last accepted command was long enough ago.
-/

namespace MiniatureWarehouse

namespace PolicyGate

/-! ## The invariant -/

/-- The id of the `n`-th registration. -/
def navId (n : ℕ) : String := "nav_" ++ format03d n

lemma navId_injective : Function.Injective navId := by
  intro m n h
  apply format03d_injective
  apply String.toList_inj.mp
  have hlists := congrArg String.toList h
  unfold navId at hlists
  rw [String.toList_append, String.toList_append] at hlists
  exact List.append_cancel_left hlists

section Invariant

variable {α δ : Type}

/-- The tables of the gate agree with each other and with its counter. -/
structure Bookkeeping (g : PolicyGate α δ) : Prop where
  numbered : ∀ r t, g.activeTasks.get? r = some t → ∃ n, n ≤ g.taskSeq ∧ t = navId n
  injective : ∀ r r' t, g.activeTasks.get? r = some t → g.activeTasks.get? r' = some t → r = r'
  reserved : ∀ r d, g.dropoffs.get? r = some d → ∃ t, g.activeTasks.get? r = some t

lemma bookkeeping_init (emergency : Finset String) :
    Bookkeeping (init emergency : PolicyGate α δ) where
  numbered _ _ h := by cases h
  injective _ _ _ h := by cases h
  reserved _ _ h := by cases h

variable {g : PolicyGate α δ}

/-- The next id is not an active one. -/
lemma Bookkeeping.next_not_active (h : Bookkeeping g) (r : String) :
    g.activeTasks.get? r ≠ some (navId (g.taskSeq + 1)) := by
  intro hactive
  obtain ⟨n, hle, heq⟩ := h.numbered r _ hactive
  have hn : g.taskSeq + 1 = n := navId_injective heq
  omega

/-- The active tasks after a registration. -/
lemma get?_activeTasks_register (g : PolicyGate α δ) (robot : String) (dropoff : Option δ)
    (now : PyFloat α) (r : String) :
    (g.registerTaskInner (some robot) dropoff now).1.activeTasks.get? r =
      if r = robot then some (navId (g.taskSeq + 1)) else g.activeTasks.get? r :=
  g.activeTasks.get?_set robot _ r

/-- The reservations after a registration: a command without a place leaves the old one. -/
lemma get?_dropoffs_register (g : PolicyGate α δ) (robot : String) (dropoff : Option δ)
    (now : PyFloat α) (r : String) :
    (g.registerTaskInner (some robot) dropoff now).1.dropoffs.get? r =
      if r = robot then dropoff.or (g.dropoffs.get? r) else g.dropoffs.get? r := by
  cases dropoff with
  | none =>
    show g.dropoffs.get? r = _
    split_ifs <;> rfl
  | some d => exact g.dropoffs.get?_set robot d r

/-- Registering a command keeps the tables in step: its id is new. -/
lemma Bookkeeping.register (h : Bookkeeping g) (robot : Option String) (dropoff : Option δ)
    (now : PyFloat α) : Bookkeeping (g.registerTaskInner robot dropoff now).1 := by
  cases robot with
  | none =>
    refine ⟨?_, h.injective, h.reserved⟩
    intro r t hr
    obtain ⟨n, hle, heq⟩ := h.numbered r t hr
    exact ⟨n, Nat.le_succ_of_le hle, heq⟩
  | some robot =>
    refine ⟨?_, ?_, ?_⟩
    · intro r t hr
      rw [get?_activeTasks_register] at hr
      split_ifs at hr with hrobot
      · exact ⟨_, le_rfl, (Option.some.inj hr).symm⟩
      · obtain ⟨n, hle, heq⟩ := h.numbered r t hr
        exact ⟨n, Nat.le_succ_of_le hle, heq⟩
    · intro r r' t hr hr'
      rw [get?_activeTasks_register] at hr hr'
      split_ifs at hr hr' with hrobot hrobot' hrobot'
      · rw [hrobot, hrobot']
      · exact absurd (hr'.trans hr.symm) (h.next_not_active r')
      · exact absurd (hr.trans hr'.symm) (h.next_not_active r)
      · exact h.injective r r' t hr hr'
    · intro r d hr
      rw [get?_dropoffs_register] at hr
      rw [get?_activeTasks_register]
      split_ifs at hr ⊢ with hrobot
      · exact ⟨_, rfl⟩
      · exact h.reserved r d hr

/-- Removing a robot from both tables keeps them in step. -/
lemma Bookkeeping.erase (h : Bookkeeping g) (robot : String) :
    Bookkeeping { g with
      activeTasks := g.activeTasks.erase robot, dropoffs := g.dropoffs.erase robot } := by
  have hold : ∀ r t, (g.activeTasks.erase robot).get? r = some t → r ≠ robot ∧
      g.activeTasks.get? r = some t := by
    intro r t hr
    rw [Dict.get?_erase] at hr
    split_ifs at hr with hrobot
    exact ⟨hrobot, hr⟩
  refine ⟨?_, ?_, ?_⟩
  · intro r t hr
    exact h.numbered r t (hold r t hr).2
  · intro r r' t hr hr'
    exact h.injective r r' t (hold r t hr).2 (hold r' t hr').2
  · intro r d hr
    have hr : (g.dropoffs.erase robot).get? r = some d := hr
    rw [Dict.get?_erase] at hr
    split_ifs at hr with hrobot
    obtain ⟨t, ht⟩ := h.reserved r d hr
    exact ⟨t, by rw [Dict.get?_erase_of_ne _ hrobot, ht]⟩

lemma Bookkeeping.resolveAndClearActive (h : Bookkeeping g) (robot : String) :
    Bookkeeping (g.resolveAndClearActive robot).1 := h.erase robot

/-- A cancel by id removes the robot whose active task this is, if there is one. -/
lemma resolveAndClearByTaskId_cases (g : PolicyGate α δ) (taskId : String) :
    (∃ owner, g.activeTasks.get? owner = some taskId ∧
      g.resolveAndClearByTaskId taskId = ({ g with
        activeTasks := g.activeTasks.erase owner, dropoffs := g.dropoffs.erase owner },
        some owner)) ∨
    ((∀ owner, g.activeTasks.get? owner ≠ some taskId) ∧
      g.resolveAndClearByTaskId taskId = (g, none)) := by
  unfold PolicyGate.resolveAndClearByTaskId
  cases hfind : g.activeTasks.entries.find? fun e => e.2 = taskId with
  | none =>
    refine .inr ⟨?_, rfl⟩
    intro owner hactive
    have hmem : (owner, taskId) ∈ g.activeTasks.entries :=
      g.activeTasks.mem_entries_iff.mpr hactive
    simpa using List.find?_eq_none.mp hfind _ hmem
  | some e =>
    obtain ⟨owner, id⟩ := e
    have hid : id = taskId := by simpa using List.find?_some hfind
    have hmem : (owner, id) ∈ g.activeTasks.entries := List.mem_of_find?_eq_some hfind
    rw [hid] at hmem
    exact .inl ⟨owner, g.activeTasks.mem_entries_iff.mp hmem, rfl⟩

lemma Bookkeeping.resolveAndClearByTaskId (h : Bookkeeping g) (taskId : String) :
    Bookkeeping (g.resolveAndClearByTaskId taskId).1 := by
  rcases g.resolveAndClearByTaskId_cases taskId with ⟨owner, -, heq⟩ | ⟨-, heq⟩
  · rw [heq]
    exact h.erase owner
  · rw [heq]
    exact h

lemma Bookkeeping.setEmergency (h : Bookkeeping g) (robot : String) (active : Bool) :
    Bookkeeping (g.setEmergency robot active) := ⟨h.numbered, h.injective, h.reserved⟩

/-- A cancel that finds no task changes nothing. -/
lemma Bookkeeping.resolveAndClearActive_none (h : Bookkeeping g)
    {robot : String} (hnone : (g.resolveAndClearActive robot).2 = none) :
    (g.resolveAndClearActive robot).1 = g := by
  have hactive : g.activeTasks.get? robot = none := hnone
  have hdropoff : g.dropoffs.get? robot = none := by
    cases hget : g.dropoffs.get? robot with
    | none => rfl
    | some d =>
      obtain ⟨t, ht⟩ := h.reserved robot d hget
      rw [hactive] at ht
      cases ht
  unfold PolicyGate.resolveAndClearActive
  rw [Dict.erase_of_get?_eq_none hactive, Dict.erase_of_get?_eq_none hdropoff]

lemma resolveAndClearByTaskId_none {taskId : String}
    (hnone : (g.resolveAndClearByTaskId taskId).2 = none) :
    (g.resolveAndClearByTaskId taskId).1 = g := by
  rcases g.resolveAndClearByTaskId_cases taskId with ⟨owner, -, heq⟩ | ⟨-, heq⟩
  · rw [heq] at hnone
    cases hnone
  · rw [heq]

lemma registerIf_error {verdict : Check Unit}
    {robot : Option String} {dropoff : Option δ} {now : PyFloat α} {refusal : Refusal}
    (h : (g.registerIf verdict robot dropoff now).2 = .error refusal) :
    (g.registerIf verdict robot dropoff now).1 = g := by
  rcases g.registerIf_cases verdict robot dropoff now with ⟨_, -, heq⟩ | ⟨-, heq⟩
  · rw [heq]
  · rw [heq] at h
    cases h

lemma registerIf_ok {verdict : Check Unit}
    {robot : Option String} {dropoff : Option δ} {now : PyFloat α} {taskId : String}
    (h : (g.registerIf verdict robot dropoff now).2 = .ok taskId) : verdict = .ok () := by
  rcases g.registerIf_cases verdict robot dropoff now with ⟨_, -, heq⟩ | ⟨hverdict, -⟩
  · rw [heq] at h
    cases h
  · exact hverdict

lemma registerIf_emergency (g : PolicyGate α δ) (verdict : Check Unit) (robot : Option String)
    (dropoff : Option δ) (now : PyFloat α) :
    (g.registerIf verdict robot dropoff now).1.emergency = g.emergency := by
  rcases g.registerIf_cases verdict robot dropoff now with ⟨_, -, heq⟩ | ⟨-, heq⟩
  · rw [heq]
  · rw [heq]
    cases robot <;> rfl

end Invariant

/-! ## What an accepted check has seen -/

section Accepted

variable {α : Type} [Field α] [LinearOrder α] [IsStrictOrderedRing α] (F : FloatFormat α)
  (iso : IsoTimestamp α) (fresh : FreshnessThresholds α)

/-- The freshness check passes for a robot: the state file has a snapshot of it and no corrupt
timestamp, and when the timestamp is a usable one it lies within the window. -/
def PassesFreshness (r : Reading α) (robot : String) : Prop :=
  ∃ state robots snapshot ts, readState r.state = .ok state ∧
    timestampIsCorrupt iso (Dict.find state "timestamp") = false ∧
    mappingOrEmpty ((Dict.find state "robots").getD .null) = .ok robots ∧
    Dict.find robots robot = some snapshot ∧ snapshot ≠ .null ∧
    snapshotTs iso (Dict.find state "timestamp") = .ok ts ∧
    ∀ t, ts = some t → ¬ .fin fresh.staleAfter < F.sub r.now t

variable {F iso fresh}

lemma checkRobotState_eq_ok {snapshot : PyVal α} {now : PyFloat α} {ts : Option (PyFloat α)}
    {u : Unit} (h : checkRobotState F fresh snapshot now ts = .ok u) :
    snapshot ≠ .null ∧ ∀ t, ts = some t → ¬ .fin fresh.staleAfter < F.sub now t := by
  have hnull : snapshot ≠ .null := by
    rintro rfl
    cases h
  refine ⟨hnull, ?_⟩
  rintro t rfl
  have hage : (do
      refuseIf (decide (.fin fresh.unavailableAfter < F.sub now t)) .robotUnavailable
      refuseIf (decide (.fin fresh.staleAfter < F.sub now t)) .robotStale : Check Unit) = .ok u := by
    cases snapshot with
    | null => exact absurd rfl hnull
    | bool | int | float | str | list | dict => exact h
  obtain ⟨_, _, hstale⟩ := exceptBind_eq_ok.mp hage
  rw [refuseIf_eq_ok] at hstale
  exact of_decide_eq_false hstale

lemma freshSnapshot_eq_ok {r : Reading α} {robot : String} {snapshot : PyVal α}
    (h : freshSnapshot F iso fresh r robot = .ok snapshot) :
    PassesFreshness F iso fresh r robot := by
  obtain ⟨state, hstate, h⟩ := exceptBind_eq_ok.mp h
  obtain ⟨_, hcorrupt, h⟩ := exceptBind_eq_ok.mp h
  obtain ⟨robots, hrobots, h⟩ := exceptBind_eq_ok.mp h
  obtain ⟨ts, hts, h⟩ := exceptBind_eq_ok.mp h
  obtain ⟨_, hrobot, _⟩ := exceptBind_eq_ok.mp h
  obtain ⟨hnull, hage⟩ := checkRobotState_eq_ok hrobot
  rw [refuseIf_eq_ok] at hcorrupt
  cases hfind : Dict.find robots robot with
  | none =>
    rw [hfind] at hnull
    exact absurd rfl hnull
  | some v =>
    rw [hfind] at hnull
    exact ⟨state, robots, v, ts, hstate, hcorrupt, hrobots, hfind, hnull, hts, hage⟩

lemma checkEmergency_eq_ok {robot : String} {emergency : Finset String} {u : Unit} :
    checkEmergency robot emergency = .ok u ↔ robot ∉ emergency := by
  rw [checkEmergency, refuseIf_eq_ok, decide_eq_false_iff_not]

lemma checkRateLimit_eq_ok {robot : String} {lastCmd : Dict String (PyFloat α)} {now : PyFloat α}
    {u : Unit} (h : checkRateLimit F robot lastCmd now = .ok u) {last : PyFloat α}
    (hlast : lastCmd.get? robot = some last) : ¬ F.sub now last < .fin rateLimit := by
  unfold checkRateLimit at h
  rw [hlast] at h
  exact of_decide_eq_false (refuseIf_eq_ok.mp h)

variable {δ : Type} {g : PolicyGate α δ} {r : Reading α} {robot : String}

/-- A robot that passes its stage is not flagged, has a fresh snapshot, and its last command is
long enough ago. -/
lemma robotStage_eq_ok {u : Unit} (h : robotStage F iso fresh g r (some robot) = .ok u) :
    robot ∉ g.emergency ∧ PassesFreshness F iso fresh r robot ∧
      ∀ last, g.lastCmd.get? robot = some last → ¬ F.sub r.now last < .fin rateLimit := by
  obtain ⟨snapshot, hsnapshot, h⟩ := exceptBind_eq_ok.mp h
  obtain ⟨_, _, h⟩ := exceptBind_eq_ok.mp h
  obtain ⟨_, hemergency, hrate⟩ := exceptBind_eq_ok.mp h
  exact ⟨checkEmergency_eq_ok.mp hemergency, freshSnapshot_eq_ok hsnapshot,
    fun last hlast => checkRateLimit_eq_ok hrate hlast⟩

lemma validateDispatchInner_eq_ok {g : PolicyGate α} {pickup dropoff : Option String}
    {action : String} {u : Unit}
    (h : g.validateDispatchInner F iso fresh r (some robot) pickup dropoff action = .ok u) :
    robot ∉ g.emergency ∧ PassesFreshness F iso fresh r robot ∧
      ∀ last, g.lastCmd.get? robot = some last → ¬ F.sub r.now last < .fin rateLimit := by
  obtain ⟨_, _, h⟩ := exceptBind_eq_ok.mp h
  obtain ⟨_, hrobot, _⟩ := exceptBind_eq_ok.mp h
  exact robotStage_eq_ok hrobot

lemma validateChargingInner_eq_ok {g : PolicyGate α} {u : Unit}
    (h : g.validateChargingInner F iso fresh r robot = .ok u) :
    robot ∉ g.emergency ∧ PassesFreshness F iso fresh r robot := by
  obtain ⟨snapshot, hsnapshot, h⟩ := exceptBind_eq_ok.mp h
  obtain ⟨_, hemergency, _⟩ := exceptBind_eq_ok.mp h
  exact ⟨checkEmergency_eq_ok.mp hemergency, freshSnapshot_eq_ok hsnapshot⟩

end Accepted

/-! ## Runs of the gate -/

section Runs

variable {α : Type}

/-- A call of the gate, with what the state file and the clock show it. -/
inductive GateOp (α : Type)
  | dispatch (state : Except PyErr (PyVal α)) (now : α) (robot pickup dropoff : Option String)
      (action : String)
  | charging (state : Except PyErr (PyVal α)) (now : α) (robot : String)
  | clearActive (robot : String)
  | clearByTaskId (taskId : String)
  | setEmergency (robot : String) (active : Bool)

/-- What a validation answered, for which robot and when. -/
structure Answer (α : Type) where
  robot : Option String
  now : α
  result : DispatchResult

/-- The ids that were handed out. -/
def issued (answers : List (Answer α)) : List String :=
  answers.filterMap fun a => a.result.toOption

/-- When a command for the robot was last accepted. -/
def lastAccepted (answers : List (Answer α)) (robot : String) : Option α :=
  (answers.filterMap fun a =>
    if a.robot = some robot ∧ a.result.isOk then some a.now else none).getLast?

/-- What the answers so far say about the gate. -/
structure Records (answers : List (Answer α)) (g : PolicyGate α) : Prop where
  bookkeeping : Bookkeeping g
  nodup : (issued answers).Nodup
  numbered : ∀ t ∈ issued answers, ∃ n, n ≤ g.taskSeq ∧ t = navId n
  lastCmd : ∀ robot, g.lastCmd.get? robot = (lastAccepted answers robot).map .fin

lemma records_init (emergency : Finset String) :
    Records ([] : List (Answer α)) (init emergency) where
  bookkeeping := bookkeeping_init emergency
  nodup := List.nodup_nil
  numbered _ h := by cases h
  lastCmd _ := rfl

lemma issued_concat (answers : List (Answer α)) (a : Answer α) :
    issued (answers ++ [a]) = issued answers ++ a.result.toOption.toList := by
  unfold issued
  rw [List.filterMap_append]
  cases h : a.result.toOption <;> simp [h]

lemma lastAccepted_concat (answers : List (Answer α)) (a : Answer α) (robot : String) :
    lastAccepted (answers ++ [a]) robot =
      if a.robot = some robot ∧ a.result.isOk then some a.now else lastAccepted answers robot := by
  unfold lastAccepted
  rw [List.filterMap_append]
  split_ifs with h
  · simp [h]
  · simp [h]

variable {answers : List (Answer α)} {g : PolicyGate α}

/-- A command that registers gets a number of its own. -/
lemma Records.register (h : Records answers g) (robot dropoff : Option String) (now : α) :
    Records (answers ++ [⟨robot, now, .ok (navId (g.taskSeq + 1))⟩])
      (g.registerTaskInner robot dropoff (.fin now)).1 := by
  have hseq : (g.registerTaskInner robot dropoff (.fin now)).1.taskSeq = g.taskSeq + 1 := by
    cases robot <;> rfl
  have hissued : issued (answers ++ [⟨robot, now, .ok (navId (g.taskSeq + 1))⟩]) =
      issued answers ++ [navId (g.taskSeq + 1)] := issued_concat answers _
  refine ⟨h.bookkeeping.register robot dropoff (.fin now), ?_, ?_, ?_⟩
  · rw [hissued, List.nodup_append]
    refine ⟨h.nodup, List.nodup_singleton _, ?_⟩
    intro t ht t' ht' heq
    obtain ⟨n, hle, hn⟩ := h.numbered t ht
    rw [List.mem_singleton.mp ht', hn] at heq
    have hnumber : n = g.taskSeq + 1 := navId_injective heq
    omega
  · intro t ht
    rw [hissued, List.mem_append, List.mem_singleton] at ht
    rw [hseq]
    rcases ht with hold | hnew
    · obtain ⟨n, hle, hn⟩ := h.numbered t hold
      exact ⟨n, Nat.le_succ_of_le hle, hn⟩
    · exact ⟨_, le_rfl, hnew⟩
  · intro r
    rw [lastAccepted_concat]
    cases robot with
    | none => exact h.lastCmd r
    | some robot =>
      have hget : (g.registerTaskInner (some robot) dropoff (.fin now)).1.lastCmd.get? r =
          if r = robot then some (.fin now) else g.lastCmd.get? r := g.lastCmd.get?_set robot _ r
      rw [hget]
      by_cases hr : r = robot
      · subst hr
        simp [Except.isOk, Except.toBool]
      · rw [if_neg hr, if_neg (by simpa using fun heq => absurd heq.symm hr), h.lastCmd r]

/-- A refusal is answered and leaves the gate as it was. -/
lemma Records.refuse (h : Records answers g) (robot : Option String) (now : α)
    (refusal : Refusal) : Records (answers ++ [⟨robot, now, .error refusal⟩]) g := by
  have hissued : issued (answers ++ [⟨robot, now, .error refusal⟩]) = issued answers := by
    rw [issued_concat]
    exact List.append_nil _
  refine ⟨h.bookkeeping, ?_, ?_, ?_⟩
  · rw [hissued]
    exact h.nodup
  · rw [hissued]
    exact h.numbered
  · intro r
    rw [lastAccepted_concat, if_neg (by simp [Except.isOk, Except.toBool])]
    exact h.lastCmd r

lemma Records.registerIf (h : Records answers g) (verdict : Check Unit)
    (robot dropoff : Option String) (now : α) :
    Records (answers ++ [⟨robot, now, (g.registerIf verdict robot dropoff (.fin now)).2⟩])
      (g.registerIf verdict robot dropoff (.fin now)).1 := by
  rcases g.registerIf_cases verdict robot dropoff (.fin now) with ⟨refusal, -, heq⟩ | ⟨-, heq⟩
  · rw [heq]
    exact h.refuse robot now refusal
  · have hid : (g.registerTaskInner robot dropoff (.fin now)).2 = navId (g.taskSeq + 1) := by
      cases robot <;> rfl
    rw [heq, hid]
    exact h.register robot dropoff now

variable [Field α] [LinearOrder α] [IsStrictOrderedRing α] (F : FloatFormat α)
  (iso : IsoTimestamp α) (fresh : FreshnessThresholds α)

/-- The gate as a machine: a validation puts out its answer. -/
def gate : Machine (PolicyGate α) (GateOp α) (Option (Answer α)) where
  step g
    | .dispatch state now robot pickup dropoff action =>
      let (g, result) := g.validateAndRegisterDispatch F iso fresh ⟨state, .fin now⟩ robot pickup
        dropoff action
      (g, some ⟨robot, now, result⟩)
    | .charging state now robot =>
      let (g, result) := g.validateAndRegisterCharging F iso fresh ⟨state, .fin now⟩ robot
      (g, some ⟨some robot, now, result⟩)
    | .clearActive robot => ((g.resolveAndClearActive robot).1, none)
    | .clearByTaskId taskId => ((g.resolveAndClearByTaskId taskId).1, none)
    | .setEmergency robot active => (g.setEmergency robot active, none)

lemma Records.step (h : Records answers g) (op : GateOp α) :
    Records (answers ++ ((gate F iso fresh).step g op).2.toList)
      ((gate F iso fresh).step g op).1 := by
  cases op with
  | dispatch state now robot pickup dropoff action => exact h.registerIf _ robot dropoff now
  | charging state now robot => exact h.registerIf _ (some robot) (some "charging_station") now
  | clearActive robot =>
    have hrecords : Records answers (g.resolveAndClearActive robot).1 :=
      ⟨h.bookkeeping.resolveAndClearActive robot, h.nodup, h.numbered, h.lastCmd⟩
    simpa [gate] using hrecords
  | clearByTaskId taskId =>
    have hrest : (g.resolveAndClearByTaskId taskId).1.taskSeq = g.taskSeq ∧
        (g.resolveAndClearByTaskId taskId).1.lastCmd = g.lastCmd := by
      rcases g.resolveAndClearByTaskId_cases taskId with ⟨owner, -, heq⟩ | ⟨-, heq⟩
      · rw [heq]
        exact ⟨rfl, rfl⟩
      · rw [heq]
        exact ⟨rfl, rfl⟩
    have hrecords : Records answers (g.resolveAndClearByTaskId taskId).1 := by
      refine ⟨h.bookkeeping.resolveAndClearByTaskId taskId, h.nodup, ?_, ?_⟩
      · rw [hrest.1]
        exact h.numbered
      · rw [hrest.2]
        exact h.lastCmd
    simpa [gate] using hrecords
  | setEmergency robot active =>
    have hrecords : Records answers (g.setEmergency robot active) :=
      ⟨h.bookkeeping.setEmergency robot active, h.nodup, h.numbered, h.lastCmd⟩
    simpa [gate] using hrecords

/-- The records hold along every run of the gate. -/
theorem records_run (emergency : Finset String) (ops : List (GateOp α)) :
    Records ((gate F iso fresh).emitted (init emergency) ops)
      ((gate F iso fresh).run (init emergency) ops) := by
  refine Machine.run_history
    (I := fun ops g => Records ((gate F iso fresh).emitted (init emergency) ops) g) ?_ ?_ ops
  · exact records_init emergency
  · intro past op h
    rw [Machine.emitted_append, Machine.emitted_singleton]
    exact h.step F iso fresh op

variable {F iso fresh}

/-- What was accepted at a finite clock reading was long enough after the last acceptance. -/
lemma Records.interval (h : Records answers g) {now : α} {robot : String}
    (hrate : ∀ last, g.lastCmd.get? robot = some last →
      ¬ F.sub (.fin now) last < .fin rateLimit)
    {last : α} (hlast : lastAccepted answers robot = some last) :
    .fin rateLimit ≤ F.sub (.fin now) (.fin last) := by
  have hget : g.lastCmd.get? robot = some (.fin last) := by
    rw [h.lastCmd robot, hlast]
    rfl
  have hnan : F.sub (.fin now) (.fin last) ≠ .nan := F.round_ne_nan _
  exact PyFloat.le_of_not_lt (by simp) hnan (hrate _ hget)

variable (F iso fresh) in
/-- **The gate's bookkeeping over whole runs.**  After any calls, accepted and refused: the ids
handed out are pairwise distinct, no two robots have one active task, and every reservation
belongs to a robot with an active task.  A check that refuses or raises leaves the gate as it was,
and so does a cancel that finds nothing.  What is accepted next for a robot finds it unflagged and
its snapshot fresh, and, charging apart, comes no sooner than the minimum interval after the
command accepted last. -/
theorem gate_bookkeeping (emergency : Finset String) (ops : List (GateOp α)) :
    let g := (gate F iso fresh).run (init emergency) ops
    let answers := (gate F iso fresh).emitted (init emergency) ops
    (issued answers).Nodup ∧
    (∀ r r' t, g.activeTasks.get? r = some t → g.activeTasks.get? r' = some t → r = r') ∧
    (∀ r d, g.dropoffs.get? r = some d → ∃ t, g.activeTasks.get? r = some t) ∧
    (∀ op a refusal, ((gate F iso fresh).step g op).2 = some a → a.result = .error refusal →
      ((gate F iso fresh).step g op).1 = g) ∧
    (∀ robot, (g.resolveAndClearActive robot).2 = none → (g.resolveAndClearActive robot).1 = g) ∧
    (∀ taskId, (g.resolveAndClearByTaskId taskId).2 = none →
      (g.resolveAndClearByTaskId taskId).1 = g) ∧
    (∀ state now robot pickup dropoff action a taskId,
      ((gate F iso fresh).step g (.dispatch state now (some robot) pickup dropoff action)).2 =
        some a → a.result = .ok taskId →
      robot ∉ g.emergency ∧ PassesFreshness F iso fresh ⟨state, .fin now⟩ robot ∧
        ∀ last, lastAccepted answers robot = some last →
          .fin rateLimit ≤ F.sub (.fin now) (.fin last)) ∧
    (∀ state now robot a taskId,
      ((gate F iso fresh).step g (.charging state now robot)).2 = some a →
      a.result = .ok taskId →
      robot ∉ g.emergency ∧ PassesFreshness F iso fresh ⟨state, .fin now⟩ robot) := by
  have h := records_run F iso fresh emergency ops
  intro g answers
  refine ⟨h.nodup, h.bookkeeping.injective, h.bookkeeping.reserved, ?_, ?_, ?_, ?_, ?_⟩
  · intro op a refusal hanswer herror
    cases op with
    | dispatch state now robot pickup dropoff action =>
      obtain rfl := Option.some.inj hanswer
      exact registerIf_error herror
    | charging state now robot =>
      obtain rfl := Option.some.inj hanswer
      have herror : (g.validateAndRegisterCharging F iso fresh ⟨state, .fin now⟩ robot).2 =
          .error refusal := herror
      exact registerIf_error herror
    | clearActive | clearByTaskId | setEmergency => cases hanswer
  · intro robot hnone
    exact h.bookkeeping.resolveAndClearActive_none hnone
  · intro taskId hnone
    exact resolveAndClearByTaskId_none hnone
  · intro state now robot pickup dropoff action a taskId hanswer hok
    obtain rfl := Option.some.inj hanswer
    have hok : (g.validateAndRegisterDispatch F iso fresh ⟨state, .fin now⟩ (some robot) pickup
        dropoff action).2 = .ok taskId := hok
    obtain ⟨hemergency, hfresh, hrate⟩ := validateDispatchInner_eq_ok (registerIf_ok hok)
    exact ⟨hemergency, hfresh, fun last hlast => h.interval hrate hlast⟩
  · intro state now robot a taskId hanswer hok
    obtain rfl := Option.some.inj hanswer
    have hok : (g.validateAndRegisterCharging F iso fresh ⟨state, .fin now⟩ robot).2 =
        .ok taskId := hok
    exact validateChargingInner_eq_ok (registerIf_ok hok)

/-- A delivery, a second one too soon after it, a wait and a cancel: two ids are handed out, and
the reservation goes with the task. -/
theorem gate_bookkeeping_deliver_wait_cancel :
    let state : Except PyErr (PyVal ℚ) :=
      .ok (.dict [("robots", .dict [("bot1", .dict [("battery", .int 90)])])])
    let ops : List (GateOp ℚ) :=
      [.dispatch state 0 (some "bot1") none (some "shelf_1") "deliver",
        .dispatch state (1 / 4) (some "bot1") none (some "shelf_2") "deliver",
        .dispatch state 1 (some "bot1") none none "wait",
        .clearByTaskId "nav_002"]
    let M := gate (.exact ℚ) (fun _ => none) .default
    issued (M.emitted (init ∅) ops) = ["nav_001", "nav_002"] ∧
      (issued (M.emitted (init ∅) ops)).Nodup ∧
      ((M.run (init ∅) ops).dropoffs.get? "bot1" = none) := by
  intro state ops M
  have h := gate_bookkeeping (.exact ℚ) (fun _ => none) .default ∅ ops
  exact ⟨by decide +kernel, h.1, by decide +kernel⟩

end Runs

end PolicyGate

end MiniatureWarehouse
