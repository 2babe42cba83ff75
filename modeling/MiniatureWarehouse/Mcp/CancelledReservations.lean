import MiniatureWarehouse.Mcp.GateBookkeeping
import MiniatureWarehouse.Mcp.Tools

/-!
# Cancelling what holds a destination

A delivery is refused when another robot holds its destination, and the way to free a destination
is to cancel the task that holds it.  The gate keeps the reservation under the robot, and the id
of the robot's task in another table, which its next command overwrites.

A `Ledger` is what a client can write down from the answers alone: which ids were handed out,
which command of a robot last named a place, and which ids have been cancelled.  Against it,
`CancelFrees` says that whatever refuses a delivery is a command that has not been cancelled and
still can be.  The one step that breaks it is a command without a place, which takes over the
robot's task and leaves the reservation behind.
-/

namespace MiniatureWarehouse

namespace CancelledReservations

/-! ## Sessions -/

/-- What the answers show: the ids handed out, for each robot the last command that named a place
with that place, and the ids a cancel succeeded for after they were handed out. -/
structure Ledger where
  issued : List String
  holders : Dict String (String × String)
  cancelled : List String

namespace Ledger

/-- Nothing has been answered yet. -/
def empty : Ledger := ⟨[], .empty, []⟩

/-- A command was accepted. -/
def issue (l : Ledger) (taskId : String) (robot place : Option String) : Ledger :=
  { l with
    issued := taskId :: l.issued
    holders := match robot, place with
      | some robot, some place => l.holders.set robot (taskId, place)
      | _, _ => l.holders }

/-- A cancel succeeded. -/
def cancel (l : Ledger) (taskId : String) : Ledger :=
  if taskId ∈ l.issued then { l with cancelled := taskId :: l.cancelled } else l

/-- A call was answered. -/
def record {α : Type} (l : Ledger) : ToolCall α → ToolResult α → Ledger
  | .dispatchTask robot _ dropoff _ _ _, .ok payload => l.issue payload.taskId robot dropoff
  | .sendToCharging robot, .ok payload =>
    l.issue payload.taskId (some robot) (some "charging_station")
  | .cancelTask _, .ok payload => l.cancel payload.taskId
  | _, _ => l

end Ledger

/-- The gate, and what its clients know. -/
structure Session (α : Type) where
  gate : PolicyGate α
  ledger : Ledger

/-- A session before the first call. -/
def Session.init {α : Type} (emergency : Finset String) : Session α := ⟨.init emergency, .empty⟩

/-- A tool call, with the outcome of its generation check and what it reads. -/
structure Event (α : Type) where
  call : ToolCall α
  gen : Except PyErr GenCheckResult
  reading : Reading α

section Run

variable {α : Type} [Field α] [LinearOrder α] [IsStrictOrderedRing α] (F : FloatFormat α)
  (iso : IsoTimestamp α) (fresh : FreshnessThresholds α)

/-- The tools as a machine: a call puts out its answer. -/
def session : Machine (Session α) (Event α) (ToolResult α) where
  step s e :=
    let (gate, result) := callTool F iso fresh s.gate e.gen e.reading e.call
    (⟨gate, s.ledger.record e.call result⟩, result)

/-- Whatever refuses a delivery its destination is the reservation of a command that has not been
cancelled, and cancelling it by its id frees the destination. -/
def CancelFrees (s : Session α) : Prop :=
  ∀ reading robot pickup dropoff r,
    s.gate.validateDispatchInner F iso fresh reading robot pickup (some dropoff) "deliver" =
      .error (.reason .duplicateDestination) →
    some r ≠ robot → s.gate.dropoffs.get? r = some dropoff →
    ∃ t, s.ledger.holders.get? r = some (t, dropoff) ∧ t ∉ s.ledger.cancelled ∧
      (cancelTask s.gate t).1.dropoffs.get? r = none

/-- **The condition.**  The call is an accepted command that names no place, for a robot that
holds a place deliveries can go to. -/
def orphans (s : Session α) (e : Event α) : Bool :=
  match e.call, e.gen with
  | .dispatchTask (some robot) pickup none _ action _, .ok ⟨none, _⟩ =>
    (s.gate.validateDispatchInner F iso fresh e.reading (some robot) pickup none action).isOk &&
      (s.gate.dropoffs.get? robot).any isKnownLocation
  | _, _ => false

end Run

/-! ## Cancelling by id -/

section Cancel

open PolicyGate

variable {α : Type} {g : PolicyGate α} {r t : String}

/-- An id that was handed out is not one of the `current:` forms. -/
lemma currentRobot?_navId (n : ℕ) : currentRobot? (navId n) = none := by
  have hpre : ¬ "current:".toList.isPrefixOf (navId n).toList = true := by
    unfold navId
    rw [String.toList_append]
    exact Bool.false_ne_true
  unfold currentRobot?
  rw [if_neg hpre]

/-- Cancelling the task of a robot frees what the robot holds. -/
lemma cancelTask_frees (h : Bookkeeping g) (hactive : g.activeTasks.get? r = some t) :
    (cancelTask g t).1.dropoffs.get? r = none := by
  obtain ⟨n, -, rfl⟩ := h.numbered r t hactive
  unfold cancelTask
  rw [currentRobot?_navId]
  rcases g.resolveAndClearByTaskId_cases (navId n) with ⟨owner, howner, heq⟩ | ⟨hnone, -⟩
  · have howner : owner = r := h.injective owner r _ howner hactive
    simp only [heq, howner]
    exact g.dropoffs.get?_erase_self r
  · exact absurd hactive (hnone r)

/-- Cancelling a task that is not the robot's leaves the robot what it holds. -/
lemma cancelTask_keeps {n : ℕ} (hactive : g.activeTasks.get? r ≠ some (navId n)) :
    (cancelTask g (navId n)).1.dropoffs.get? r = g.dropoffs.get? r := by
  unfold cancelTask
  rw [currentRobot?_navId]
  rcases g.resolveAndClearByTaskId_cases (navId n) with ⟨owner, howner, heq⟩ | ⟨-, heq⟩
  · have hne : r ≠ owner := by
      rintro rfl
      exact hactive howner
    simp only [heq]
    exact g.dropoffs.get?_erase_of_ne hne
  · simp only [heq]

end Cancel

/-! ## What a call does -/

section Steps

open PolicyGate

variable {α : Type} [Field α] [LinearOrder α] [IsStrictOrderedRing α] (F : FloatFormat α)
  (iso : IsoTimestamp α) (fresh : FreshnessThresholds α)

/-- Registering a command, in the gate and in the ledger. -/
def Session.register (s : Session α) (robot place : Option String) (now : PyFloat α) : Session α :=
  ⟨(s.gate.registerTaskInner robot place now).1,
    s.ledger.issue (navId (s.gate.taskSeq + 1)) robot place⟩

/-- An accepted dispatch registers. -/
lemma step_dispatch {s : Session α} {reading : Reading α} {robot pickup dropoff via : Option String}
    {action : String} {duration : Option (PyFloat α)} {cur : ℤ}
    (hverdict : s.gate.validateDispatchInner F iso fresh reading robot pickup dropoff action =
      .ok ()) :
    ((session F iso fresh).step s ⟨.dispatchTask robot pickup dropoff via action duration,
      .ok ⟨none, cur⟩, reading⟩).1 = s.register robot dropoff reading.now := by
  simp only [session, callTool, runTool, validateAndRegisterDispatch, hverdict,
    PolicyGate.registerIf]
  cases robot <;> rfl

/-- A call registers a command, removes a robot, cancels an id no robot has, or does nothing. -/
theorem step_cases (s : Session α) (e : Event α) :
    (∃ robot place, ((session F iso fresh).step s e).1 = s.register robot place e.reading.now ∧
      ∀ r, robot = some r → place = none →
        orphans F iso fresh s e = (s.gate.dropoffs.get? r).any isKnownLocation) ∨
    (∃ r ledger, ((session F iso fresh).step s e).1 = ⟨{ s.gate with
        activeTasks := s.gate.activeTasks.erase r, dropoffs := s.gate.dropoffs.erase r }, ledger⟩ ∧
      (ledger = s.ledger ∨
        ∃ t, s.gate.activeTasks.get? r = some t ∧ ledger = s.ledger.cancel t)) ∨
    (∃ t, (∀ r, s.gate.activeTasks.get? r ≠ some t) ∧
      ((session F iso fresh).step s e).1 = ⟨s.gate, s.ledger.cancel t⟩) ∨
    ((session F iso fresh).step s e).1 = s := by
  obtain ⟨call, gen, reading⟩ := e
  cases gen with
  | error err => exact .inr (.inr (.inr (by cases call <;> rfl)))
  | ok result =>
    obtain ⟨reason, cur⟩ := result
    cases reason with
    | some reason => exact .inr (.inr (.inr (by cases call <;> rfl)))
    | none =>
      cases call with
      | passive => exact .inr (.inr (.inr rfl))
      | dispatchTask robot pickup dropoff via action duration =>
        cases hverdict : s.gate.validateDispatchInner F iso fresh reading robot pickup dropoff
            action with
        | error refusal =>
          refine .inr (.inr (.inr ?_))
          simp only [session, callTool, runTool, validateAndRegisterDispatch, hverdict,
            PolicyGate.registerIf]
          cases refusal <;> rfl
        | ok u =>
          refine .inl ⟨robot, dropoff, step_dispatch F iso fresh hverdict, ?_⟩
          · rintro r rfl rfl
            simp [orphans, hverdict, Except.isOk, Except.toBool]
      | sendToCharging robot =>
        cases hverdict : s.gate.validateChargingInner F iso fresh reading robot with
        | error refusal =>
          refine .inr (.inr (.inr ?_))
          simp only [session, callTool, runTool, validateAndRegisterCharging, hverdict,
            PolicyGate.registerIf]
          cases refusal <;> rfl
        | ok u =>
          refine .inl ⟨some robot, some "charging_station", ?_, ?_⟩
          · simp only [session, callTool, runTool, validateAndRegisterCharging, hverdict,
              PolicyGate.registerIf]
            rfl
          · rintro r - hplace
            cases hplace
      | cancelTask taskId =>
        cases hcurrent : currentRobot? taskId with
        | some robot =>
          refine .inr (.inl ⟨robot, ?_⟩)
          simp only [session, callTool, runTool, cancelTask, hcurrent]
          cases hactive : s.gate.activeTasks.get? robot with
          | none =>
            have hresolved : (s.gate.resolveAndClearActive robot).2 = none := hactive
            simp only [hresolved]
            exact ⟨s.ledger, rfl, .inl rfl⟩
          | some t =>
            have hresolved : (s.gate.resolveAndClearActive robot).2 = some t := hactive
            simp only [hresolved]
            exact ⟨s.ledger.cancel t, rfl, .inr ⟨t, rfl, rfl⟩⟩
        | none =>
          simp only [session, callTool, runTool, cancelTask, hcurrent]
          rcases s.gate.resolveAndClearByTaskId_cases taskId with ⟨owner, howner, heq⟩ | ⟨hnone, heq⟩
          · simp only [heq]
            exact .inr (.inl ⟨owner, s.ledger.cancel taskId, rfl, .inr ⟨taskId, howner, rfl⟩⟩)
          · simp only [heq]
            exact .inr (.inr (.inl ⟨taskId, hnone, rfl⟩))

end Steps

/-! ## The ledger and the gate -/

section Invariant

open PolicyGate

variable {α : Type}

/-- The ledger agrees with the gate: what is reserved was named by a command on record, and only
ids on record have been cancelled. -/
structure Tracks (s : Session α) : Prop where
  bookkeeping : Bookkeeping s.gate
  issued : ∀ t ∈ s.ledger.issued, ∃ n, n ≤ s.gate.taskSeq ∧ t = navId n
  cancelled : ∀ t ∈ s.ledger.cancelled, t ∈ s.ledger.issued
  held : ∀ r d, s.gate.dropoffs.get? r = some d →
    ∃ t ∈ s.ledger.issued, s.ledger.holders.get? r = some (t, d)

/-- The robot holds the place for the command that is its active task. -/
structure Holds (s : Session α) (r d t : String) : Prop where
  holder : s.ledger.holders.get? r = some (t, d)
  active : s.gate.activeTasks.get? r = some t
  live : t ∉ s.ledger.cancelled

/-- Every reservation deliveries can run into belongs to the active task of its robot. -/
structure Owned (s : Session α) : Prop extends Tracks s where
  owned : ∀ r d, s.gate.dropoffs.get? r = some d → isKnownLocation d = true → ∃ t, Holds s r d t

lemma owned_init (emergency : Finset String) : Owned (Session.init emergency : Session α) where
  bookkeeping := bookkeeping_init emergency
  issued _ h := by cases h
  cancelled _ h := by cases h
  held _ _ h := by cases h
  owned _ _ h _ := by cases h

/-- A cancel changes nothing on the ledger but what has been cancelled, and that by one id. -/
lemma mem_cancelled_cancel {l : Ledger} {t t' : String} (h : t' ∈ (l.cancel t).cancelled) :
    t' = t ∧ t ∈ l.issued ∨ t' ∈ l.cancelled := by
  unfold Ledger.cancel at h
  split_ifs at h with hissued
  · rcases List.mem_cons.mp h with heq | hold
    · exact .inl ⟨heq, hissued⟩
    · exact .inr hold
  · exact .inr h

@[simp] lemma issued_cancel (l : Ledger) (t : String) : (l.cancel t).issued = l.issued := by
  unfold Ledger.cancel
  split_ifs <;> rfl

@[simp] lemma holders_cancel (l : Ledger) (t : String) : (l.cancel t).holders = l.holders := by
  unfold Ledger.cancel
  split_ifs <;> rfl

variable {s : Session α}

/-- The number the next command gets is not on the ledger. -/
lemma Tracks.next_not_issued (h : Tracks s) : navId (s.gate.taskSeq + 1) ∉ s.ledger.issued := by
  intro hissued
  obtain ⟨n, hle, heq⟩ := h.issued _ hissued
  have hn : s.gate.taskSeq + 1 = n := navId_injective heq
  omega

lemma Tracks.register (h : Tracks s) (robot place : Option String) (now : PyFloat α) :
    Tracks (s.register robot place now) := by
  have hseq : (s.register robot place now).gate.taskSeq = s.gate.taskSeq + 1 := by
    cases robot <;> rfl
  have hissued : (s.register robot place now).ledger.issued =
      navId (s.gate.taskSeq + 1) :: s.ledger.issued := rfl
  refine ⟨h.bookkeeping.register robot place now, ?_, ?_, ?_⟩
  · intro t ht
    rw [hseq]
    rw [hissued, List.mem_cons] at ht
    rcases ht with rfl | hold
    · exact ⟨_, le_rfl, rfl⟩
    · obtain ⟨n, hle, heq⟩ := h.issued t hold
      exact ⟨n, Nat.le_succ_of_le hle, heq⟩
  · intro t ht
    exact List.mem_cons_of_mem _ (h.cancelled t ht)
  · intro r d hr
    have hold : s.gate.dropoffs.get? r = some d →
        s.ledger.holders.get? r = (s.register robot place now).ledger.holders.get? r →
        ∃ t ∈ (s.register robot place now).ledger.issued,
          (s.register robot place now).ledger.holders.get? r = some (t, d) := by
      intro hget hholders
      obtain ⟨t, ht, hholder⟩ := h.held r d hget
      exact ⟨t, List.mem_cons_of_mem _ ht, hholders ▸ hholder⟩
    cases robot with
    | none => exact hold hr rfl
    | some robot =>
      have hr : (s.gate.registerTaskInner (some robot) place now).1.dropoffs.get? r = some d := hr
      rw [get?_dropoffs_register] at hr
      cases place with
      | none =>
        have hget : s.gate.dropoffs.get? r = some d := by
          split_ifs at hr <;> exact hr
        exact hold hget rfl
      | some place =>
        have hholders : (s.register (some robot) (some place) now).ledger.holders.get? r =
            if r = robot then some (navId (s.gate.taskSeq + 1), place)
            else s.ledger.holders.get? r := s.ledger.holders.get?_set robot _ r
        split_ifs at hr with hrobot
        · have hplace : place = d := Option.some.inj hr
          refine ⟨navId (s.gate.taskSeq + 1), List.mem_cons_self, ?_⟩
          rw [hholders, if_pos hrobot, hplace]
        · refine hold hr ?_
          rw [hholders, if_neg hrobot]

/-- Cancelling on the ledger, with or without removing a robot from the gate. -/
lemma Tracks.cancel (h : Tracks s) {ledger : Ledger}
    (hledger : ledger = s.ledger ∨ ∃ t, ledger = s.ledger.cancel t) : Tracks ⟨s.gate, ledger⟩ := by
  rcases hledger with rfl | ⟨t, rfl⟩
  · exact h
  · refine ⟨h.bookkeeping, ?_, ?_, ?_⟩
    · intro t' ht'
      rw [issued_cancel] at ht'
      exact h.issued t' ht'
    · intro t' ht'
      rw [issued_cancel]
      rcases mem_cancelled_cancel ht' with ⟨rfl, hissued⟩ | hold
      · exact hissued
      · exact h.cancelled t' hold
    · intro r d hr
      rw [issued_cancel, holders_cancel]
      exact h.held r d hr

lemma Tracks.erase (h : Tracks s) (r : String) :
    Tracks ⟨{ s.gate with
      activeTasks := s.gate.activeTasks.erase r, dropoffs := s.gate.dropoffs.erase r },
      s.ledger⟩ := by
  refine ⟨h.bookkeeping.erase r, h.issued, h.cancelled, ?_⟩
  intro r' d hr'
  have hr' : (s.gate.dropoffs.erase r).get? r' = some d := hr'
  rw [Dict.get?_erase] at hr'
  split_ifs at hr' with hrobot
  exact h.held r' d hr'

/-- A command leaves what the other robots hold alone, and its own robot holds what it names. -/
lemma Owned.register (h : Owned s) {robot place : Option String} {now : PyFloat α}
    (hkept : ∀ r, robot = some r → place = none →
      (s.gate.dropoffs.get? r).any isKnownLocation = false) :
    Owned (s.register robot place now) := by
  refine ⟨h.toTracks.register robot place now, ?_⟩
  intro r d hr hknown
  cases robot with
  | none =>
    obtain ⟨t, ht⟩ := h.owned r d hr hknown
    exact ⟨t, ht.holder, ht.active, ht.live⟩
  | some robot =>
    have hr : (s.gate.registerTaskInner (some robot) place now).1.dropoffs.get? r = some d := hr
    rw [get?_dropoffs_register] at hr
    have hactive : (s.register (some robot) place now).gate.activeTasks.get? r =
        if r = robot then some (navId (s.gate.taskSeq + 1)) else s.gate.activeTasks.get? r :=
      get?_activeTasks_register s.gate robot place now r
    split_ifs at hr with hrobot
    · cases place with
      | none =>
        have hget : s.gate.dropoffs.get? robot = some d := hrobot ▸ hr
        have hfree := hkept robot rfl rfl
        rw [hget] at hfree
        exact absurd (hfree.symm.trans hknown) Bool.false_ne_true
      | some place =>
        have hplace : place = d := Option.some.inj hr
        refine ⟨navId (s.gate.taskSeq + 1), ?_, ?_, ?_⟩
        · rw [hrobot, ← hplace]
          exact s.ledger.holders.get?_set_self robot _
        · rw [hactive, if_pos hrobot]
        · intro hcancelled
          exact h.next_not_issued (h.cancelled _ hcancelled)
    · obtain ⟨t, ht⟩ := h.owned r d hr hknown
      refine ⟨t, ?_, ?_, ht.live⟩
      · cases place with
        | none => exact ht.holder
        | some place =>
          exact (s.ledger.holders.get?_set_of_ne _ hrobot).trans ht.holder
      · rw [hactive, if_neg hrobot]
        exact ht.active

/-- Cancelling another id does not concern what a robot holds. -/
lemma Holds.cancel {r d t t' : String} (h : Holds s r d t) (hne : t ≠ t') :
    Holds ⟨s.gate, s.ledger.cancel t'⟩ r d t := by
  refine ⟨?_, h.active, ?_⟩
  · rw [holders_cancel]
    exact h.holder
  · intro hcancelled
    rcases mem_cancelled_cancel hcancelled with ⟨heq, -⟩ | hold
    · exact hne heq
    · exact h.live hold

variable [Field α] [LinearOrder α] [IsStrictOrderedRing α] {F : FloatFormat α}
  {iso : IsoTimestamp α} {fresh : FreshnessThresholds α}

lemma Tracks.step (h : Tracks s) (e : Event α) : Tracks ((session F iso fresh).step s e).1 := by
  rcases step_cases F iso fresh s e with ⟨robot, place, heq, -⟩ | ⟨r, ledger, heq, hledger⟩ |
    ⟨t, -, heq⟩ | heq
  · rw [heq]
    exact h.register robot place _
  · rw [heq]
    have hledger : ledger = s.ledger ∨ ∃ t, ledger = s.ledger.cancel t := by
      rcases hledger with rfl | ⟨t, -, rfl⟩
      · exact .inl rfl
      · exact .inr ⟨t, rfl⟩
    exact (h.erase r).cancel hledger
  · rw [heq]
    exact h.cancel (.inr ⟨t, rfl⟩)
  · rw [heq]
    exact h

/-- A step that leaves no reservation behind keeps every reservation with its task. -/
lemma Owned.step (h : Owned s) (e : Event α) (hC : orphans F iso fresh s e = false) :
    Owned ((session F iso fresh).step s e).1 := by
  have htracks : Tracks ((session F iso fresh).step s e).1 := h.toTracks.step e
  refine ⟨htracks, ?_⟩
  rcases step_cases F iso fresh s e with ⟨robot, place, heq, hkept⟩ | ⟨r, ledger, heq, hledger⟩ |
    ⟨t, hnone, heq⟩ | heq
  · rw [heq]
    refine (h.register ?_).owned
    intro r hrobot hplace
    rw [← hkept r hrobot hplace]
    exact hC
  · rw [heq]
    intro r' d hr' hknown
    have hr' : (s.gate.dropoffs.erase r).get? r' = some d := hr'
    rw [Dict.get?_erase] at hr'
    split_ifs at hr' with hrobot
    obtain ⟨t, ht⟩ := h.owned r' d hr' hknown
    have hactive : (s.gate.activeTasks.erase r).get? r' = some t := by
      rw [Dict.get?_erase_of_ne _ hrobot]
      exact ht.active
    have hholds : Holds ⟨s.gate, ledger⟩ r' d t := by
      rcases hledger with rfl | ⟨t', ht', rfl⟩
      · exact ht
      · -- no two robots have one active task
        refine ht.cancel ?_
        rintro rfl
        exact hrobot (h.bookkeeping.injective r' r t ht.active ht')
    exact ⟨t, hholds.holder, hactive, hholds.live⟩
  · rw [heq]
    intro r d hr hknown
    obtain ⟨t', ht'⟩ := h.owned r d hr hknown
    refine ⟨t', ht'.cancel ?_⟩
    rintro rfl
    exact hnone r ht'.active
  · rw [heq]
    exact h.owned

end Invariant

/-! ## When a cancel frees the reservation -/

section Exact

open PolicyGate

variable {α : Type} [Field α] [LinearOrder α] [IsStrictOrderedRing α] {F : FloatFormat α}
  {iso : IsoTimestamp α} {fresh : FreshnessThresholds α} {s : Session α}

/-- A delivery gets as far as the duplicate rule only with a known destination. -/
lemma isKnownLocation_of_duplicate {g : PolicyGate α} {reading : Reading α}
    {robot pickup : Option String} {dropoff : String}
    (h : g.validateDispatchInner F iso fresh reading robot pickup (some dropoff) "deliver" =
      .error (.reason .duplicateDestination)) : isKnownLocation dropoff = true := by
  by_contra hunknown
  have hdropoff : checkLocationKnown (some dropoff) = .error (.reason .unknownLocation) := by
    simp [checkLocationKnown, refuseIf, hunknown]
  have hlocation : locationStage robot pickup (some dropoff) "deliver" =
      .error (.reason .unknownLocation) := by
    unfold locationStage
    rw [if_pos (by decide), hdropoff]
    cases pickup with
    | none => rfl
    | some pickup =>
      cases hpickup : isKnownLocation pickup <;>
        simp [checkLocationKnown, refuseIf, hpickup, bind, Except.bind]
  unfold validateDispatchInner at h
  rw [hlocation] at h
  cases h

lemma Owned.cancelFrees (h : Owned s) : CancelFrees F iso fresh s := by
  intro reading robot pickup dropoff r hduplicate hne hr
  obtain ⟨t, ht⟩ := h.owned r dropoff hr (isKnownLocation_of_duplicate hduplicate)
  exact ⟨t, ht.holder, ht.live, cancelTask_frees h.bookkeeping ht.active⟩

/-- A delivery nobody is named for runs into every reservation of its destination. -/
lemma validateDispatchInner_anonymous {g : PolicyGate α} (reading : Reading α) {r d : String}
    (hr : g.dropoffs.get? r = some d) (hknown : isKnownLocation d = true) :
    g.validateDispatchInner F iso fresh reading none none (some d) "deliver" =
      .error (.reason .duplicateDestination) := by
  have hmem : (r, d) ∈ g.dropoffs.entries := g.dropoffs.mem_entries_iff.mpr hr
  have hany : (g.dropoffs.entries.any fun e => e.2 = d ∧ some e.1 ≠ none) = true :=
    List.any_eq_true.mpr ⟨(r, d), hmem, by simp⟩
  have hduplicate : checkDuplicateDestination (some d) g.dropoffs none =
      .error (.reason .duplicateDestination) := by
    unfold checkDuplicateDestination
    simp only [refuseIf, hany, if_true]
  have hlocation : locationStage none none (some d) "deliver" = .ok () := by
    unfold locationStage
    simp [checkLocationKnown, checkSameLocation, refuseIf, hknown, bind, Except.bind]
  unfold validateDispatchInner
  rw [hlocation]
  exact hduplicate

/-- The condition fails on an accepted dispatch without a place. -/
lemma orphans_eq_true {e : Event α} (h : orphans F iso fresh s e = true) :
    ∃ robot pickup via action duration cur reading d,
      e = ⟨.dispatchTask (some robot) pickup none via action duration, .ok ⟨none, cur⟩, reading⟩ ∧
      s.gate.validateDispatchInner F iso fresh reading (some robot) pickup none action = .ok () ∧
      s.gate.dropoffs.get? robot = some d ∧ isKnownLocation d = true := by
  obtain ⟨call, gen, reading⟩ := e
  unfold orphans at h
  split at h
  · rename_i robot pickup via action duration cur hcall hgen
    have hcall : call = .dispatchTask (some robot) pickup none via action duration := hcall
    have hgen : gen = .ok ⟨none, cur⟩ := hgen
    rw [Bool.and_eq_true] at h
    cases hverdict : s.gate.validateDispatchInner F iso fresh reading (some robot) pickup none
        action with
    | error refusal =>
      rw [hverdict] at h
      exact absurd h.1 Bool.false_ne_true
    | ok u =>
      cases hget : s.gate.dropoffs.get? robot with
      | none =>
        rw [hget] at h
        exact absurd h.2 Bool.false_ne_true
      | some d =>
        rw [hget] at h
        exact ⟨robot, pickup, via, action, duration, cur, reading, d, by rw [hcall, hgen],
          hverdict, hget, h.2⟩
  · cases h

/-- What an accepted command without a place leaves behind can no longer be cancelled. -/
lemma not_cancelFrees_of_orphans (h : Tracks s) {e : Event α}
    (horphans : orphans F iso fresh s e = true) :
    ¬ CancelFrees F iso fresh ((session F iso fresh).step s e).1 := by
  obtain ⟨robot, pickup, via, action, duration, cur, reading, d, rfl, hverdict, hget, hknown⟩ :=
    orphans_eq_true horphans
  rw [step_dispatch F iso fresh hverdict]
  intro hfrees
  have hget' : (s.register (some robot) none reading.now).gate.dropoffs.get? robot = some d := hget
  have hactive : (s.register (some robot) none reading.now).gate.activeTasks.get? robot =
      some (navId (s.gate.taskSeq + 1)) := s.gate.activeTasks.get?_set_self robot _
  obtain ⟨t, hholder, -, hfreed⟩ := hfrees reading none none d robot
    (validateDispatchInner_anonymous reading hget' hknown) (by simp) hget'
  -- the reservation is still on record for the command that made it
  have hholder : s.ledger.holders.get? robot = some (t, d) := hholder
  obtain ⟨t', ht', hholder'⟩ := h.held robot d hget
  have hsame : t' = t := by
    rw [hholder] at hholder'
    exact (Prod.mk.inj (Option.some.inj hholder')).1.symm
  obtain ⟨n, hle, hn⟩ := h.issued t' ht'
  have hother : (s.register (some robot) none reading.now).gate.activeTasks.get? robot ≠
      some (navId n) := by
    rw [hactive]
    intro heq
    have hnumber : s.gate.taskSeq + 1 = n := navId_injective (Option.some.inj heq)
    omega
  rw [← hsame, hn, cancelTask_keeps hother, hget'] at hfreed
  cases hfreed

/-- **When a cancel frees the reservation.**  In a run from the empty gate, whatever refuses a
delivery its destination is always the reservation of a command that has not been cancelled and
whose cancellation frees the destination, exactly when no step of the run is an accepted command
without a place for a robot that holds a known one. -/
theorem cancelFrees_iff (emergency : Finset String) (es : List (Event α)) :
    (session F iso fresh).Always (CancelFrees F iso fresh) (.init emergency) es ↔
      (session F iso fresh).AllSteps (fun s e => orphans F iso fresh s e = false)
        (.init emergency) es := by
  have htracks : ∀ pre, Tracks ((session F iso fresh).run (.init emergency) pre) := by
    intro pre
    refine Machine.run_invariant (C := fun _ _ => True) ?_ ?_ (owned_init emergency).toTracks
    · intro s e _ h
      exact h.step e
    · exact (session F iso fresh).allSteps_of_forall _ fun _ _ => trivial
  rw [Machine.always_iff]
  constructor
  · intro h
    rw [Machine.allSteps_iff]
    intro pre e post hes
    by_contra horphans
    rw [Bool.not_eq_false] at horphans
    have hfrees := h (pre ++ [e]) post (by rw [hes, List.append_assoc]; rfl)
    rw [Machine.run_concat] at hfrees
    exact not_cancelFrees_of_orphans (htracks pre) horphans hfrees
  · intro hC pre post hes
    rw [hes] at hC
    have hpre := ((session F iso fresh).allSteps_append _ _ pre post).mp hC
    have howned : Owned ((session F iso fresh).run (.init emergency) pre) :=
      Machine.run_invariant (fun s e hC h => h.step e hC) hpre.1 (owned_init emergency)
    exact howned.cancelFrees

end Exact

/-! ## Two sessions -/

section Sessions

/-- A state file with two charged robots and no timestamp, read at a second. -/
def twoRobots (second : ℕ) : Reading ℚ where
  state := .ok (.dict [("robots", .dict [("bot1", .dict [("battery", .int 80)]),
    ("bot2", .dict [("battery", .int 90)])])])
  now := .fin second

/-- A delivery, a wait and a cancel that pass the generation check. -/
def deliverTo (robot place : String) (second : ℕ) : Event ℚ :=
  ⟨.dispatchTask (some robot) none (some place) none "deliver" none, .ok ⟨none, 1⟩, twoRobots second⟩

def waitFor (robot : String) (second : ℕ) : Event ℚ :=
  ⟨.dispatchTask (some robot) none none none "wait" (some (.fin 3)), .ok ⟨none, 1⟩,
    twoRobots second⟩

def cancelId (taskId : String) (second : ℕ) : Event ℚ :=
  ⟨.cancelTask taskId, .ok ⟨none, 1⟩, twoRobots second⟩

/-- A robot that waits on its way to a shelf keeps the shelf after its delivery has been
cancelled: the other robot is refused. -/
theorem cancelled_delivery_keeps_its_shelf :
    let M := session (.exact ℚ) (fun _ => none) .default
    let calls := [deliverTo "bot1" "shelf_1" 0, waitFor "bot1" 1, cancelId "nav_001" 2]
    let s := M.run (.init ∅) calls
    s.ledger.holders.get? "bot1" = some ("nav_001", "shelf_1") ∧
      s.ledger.cancelled = ["nav_001"] ∧
      s.gate.validateDispatchInner (.exact ℚ) (fun _ => none) .default (twoRobots 3) (some "bot2")
        none (some "shelf_1") "deliver" = .error (.reason .duplicateDestination) ∧
      ¬ M.Always (CancelFrees (.exact ℚ) (fun _ => none) .default) (.init ∅) calls := by
  intro M calls s
  have hholder : s.ledger.holders.get? "bot1" = some ("nav_001", "shelf_1") := by decide +kernel
  have hcancelled : s.ledger.cancelled = ["nav_001"] := by decide +kernel
  have hreserved : s.gate.dropoffs.get? "bot1" = some "shelf_1" := by decide +kernel
  have hrefused : s.gate.validateDispatchInner (.exact ℚ) (fun _ => none) .default (twoRobots 3)
      (some "bot2") none (some "shelf_1") "deliver" = .error (.reason .duplicateDestination) := by
    decide +kernel
  refine ⟨hholder, hcancelled, hrefused, ?_⟩
  intro h
  have hlast : CancelFrees (.exact ℚ) (fun _ => none) .default s :=
    (M.always_iff _ _ _).mp h calls [] (List.append_nil _).symm
  obtain ⟨t, ht, hlive, -⟩ := hlast _ _ _ _ "bot1" hrefused (by decide) hreserved
  rw [hholder] at ht
  obtain rfl : "nav_001" = t := (Prod.mk.inj (Option.some.inj ht)).1
  exact hlive (by rw [hcancelled]; exact List.mem_singleton_self _)

/-- Without the wait the cancel frees the shelf, and the other robot is sent there. -/
theorem cancelFrees_iff_direct :
    let M := session (.exact ℚ) (fun _ => none) .default
    let calls := [deliverTo "bot1" "shelf_1" 0, cancelId "nav_001" 1, deliverTo "bot2" "shelf_1" 2]
    (M.run (.init ∅) calls).ledger.holders.get? "bot2" = some ("nav_002", "shelf_1") ∧
      M.Always (CancelFrees (.exact ℚ) (fun _ => none) .default) (.init ∅) calls :=
  ⟨by decide +kernel, (cancelFrees_iff ∅ _).mpr (by decide +kernel)⟩

end Sessions

end CancelledReservations

end MiniatureWarehouse
