import MiniatureWarehouse.Framework.Runs
import MiniatureWarehouse.Nav2Bridge.Core

/-!
# The lock sections of the navigation bridge

Requests are handled one at a time, but the monitor polls from a second thread.  A request makes its
checks before it takes the lock, and a wait or a stop cancels the goal of the robot there as well;
a poll reads the clock before it takes the lock.  So a poll may come between the two parts of a
request, and it may work with an old time.

A `Bridge` is the core with the request in flight.  An event is the arrival of a request, its
section under the lock, or the section of a poll.  The backend answers anew at every event, and each
of its calls may raise.
-/

namespace MiniatureWarehouse

/-- What the backend does while it is called: `none`, or `false` where nothing is returned, when the
call raises. -/
structure Backend (α : Type) where
  ready : String → Option Bool
  goTo : String → List (Pose α) → Bool
  cancel : String → Bool
  isComplete : String → Option Bool
  result : String → Option NavResult

/-- The backend that answers as the navigator does, and raises nowhere. -/
def Backend.ofNavigator {α : Type} (nav : Navigator α) : Backend α where
  ready robot := some (nav.ready robot)
  goTo _ _ := true
  cancel _ := true
  isComplete robot := some (nav.isComplete robot)
  result robot := some (nav.result robot)

/-- How a request fails: it is refused, or the backend has raised. -/
inductive BridgeFailure
  | refused (e : Nav2BridgeError)
  | backend
  deriving DecidableEq, Repr

/-- The requests that change the state. -/
inductive BridgeRequest (α : Type)
  | navigate (robot : String) (destination via : Option String)
      (goal : Option (List (PyFloat α)))
  | wait (robot : String) (duration : PyFloat α)
  | stop (robot : String)

/-- A request past its checks. -/
inductive CheckedRequest (α : Type)
  | navigate (robot : String) (poses : List (Pose α)) (destination : Option String)
  | wait (robot : String) (duration : PyFloat α)
  | stop (robot : String)

/-- What leaves the bridge: a request is accepted with a new id, a stop answers with the id it has
cancelled, a poll reports a result. -/
inductive Notice
  | accepted (robot taskId : String)
  | stopped (robot : String) (cancelled : Option String)
  | result (r : Nav2BridgeCore.PollResult)
  deriving DecidableEq, Repr

namespace Nav2BridgeCore

variable {α : Type}

/-- A refusal of the core, as a failure of the request. -/
def orRefused {β : Type} : Except Nav2BridgeError β → Except BridgeFailure β
  | .ok b => .ok b
  | .error e => .error (.refused e)

/-- `_require_ready` with a backend that may raise. -/
def askReady (B : Backend α) (robot : String) : Except BridgeFailure Unit :=
  match B.ready robot with
  | none => .error .backend
  | some true => .ok ()
  | some false => .error (.refused ⟨"NAV2_NOT_READY", "Nav2 not ready for " ++ robot, 503⟩)

/-- `backend.cancel` before the lock. -/
def askCancel (B : Backend α) (robot : String) : Except BridgeFailure Unit :=
  if B.cancel robot then .ok () else .error .backend

section Requests

variable [Field α] [LinearOrder α] [IsStrictOrderedRing α]

/-- What a request does before it takes the lock. -/
def checkRequest (c : Nav2BridgeCore α) (B : Backend α) :
    BridgeRequest α → Except BridgeFailure (CheckedRequest α)
  | .navigate robot destination via goal => do
    orRefused (c.requireRobot robot)
    let (poses, destination) ← orRefused (c.resolveGoal destination via goal)
    askReady B robot
    return .navigate robot poses destination
  | .wait robot duration => do
    orRefused (c.requireRobot robot)
    orRefused (requireDuration duration)
    askReady B robot
    askCancel B robot
    return .wait robot duration
  | .stop robot => do
    orRefused (c.requireRobot robot)
    askCancel B robot
    return .stop robot

/-- What a request does under the lock. -/
def commitRequest (F : FloatFormat α) (c : Nav2BridgeCore α) (B : Backend α) (now : PyFloat α) :
    CheckedRequest α → Nav2BridgeCore α × Except BridgeFailure Notice
  | .navigate robot poses destination =>
    match c.requireIdle robot with
    | .error e => (c, .error (.refused e))
    | .ok _ =>
      if !B.goTo robot poses then (c, .error .backend)
      else
        let seq := c.navSeq + 1
        let taskId := "nav_" ++ format03d seq
        let task := ⟨taskId, .navigating, .navigate destination⟩
        ({ c with navSeq := seq, active := c.active.set robot task }, .ok (.accepted robot taskId))
  | .wait robot duration =>
    let seq := c.waitSeq + 1
    let taskId := "wait_" ++ format03d seq
    let task := ⟨taskId, .waiting, .wait duration (F.add now duration)⟩
    ({ c with waitSeq := seq, active := c.active.set robot task }, .ok (.accepted robot taskId))
  | .stop robot =>
    ({ c with active := c.active.erase robot },
      .ok (.stopped robot ((c.active.get? robot).map NavTask.taskId)))

/-- `_completed` with a backend that may raise. -/
def askCompleted (B : Backend α) (now : PyFloat α) (robot : String) (task : NavTask α) :
    Except BridgeFailure (Option NavResult) :=
  match task.navStatus, task.action with
  | .navigating, _ =>
    match B.isComplete robot, B.result robot with
    | some false, _ => .ok none
    | some true, some result => .ok (some result)
    | none, _ | some true, none => .error .backend
  | .waiting, .wait _ expiry => .ok (if expiry ≤ now then some .succeeded else none)
  | .waiting, .navigate _ => .ok (some .succeeded)
  | .done _, _ => .ok none

/-- The loop of `poll_results`: the records are changed one by one, and what has been collected is
lost when the backend raises. -/
def pollLoop (B : Backend α) (now : PyFloat α) :
    List (String × NavTask α) → Dict String (NavTask α) → List PollResult →
      Dict String (NavTask α) × Except BridgeFailure (List PollResult)
  | [], active, out => (active, .ok out)
  | (robot, task) :: rest, active, out =>
    match askCompleted B now robot task with
    | .error e => (active, .error e)
    | .ok none => pollLoop B now rest active out
    | .ok (some result) =>
      pollLoop B now rest (active.set robot { task with navStatus := .done result })
        (out ++ [⟨robot, task.taskId, result⟩])

/-- The section of `poll_results` under the lock, with the time it has read before. -/
def pollSection (c : Nav2BridgeCore α) (B : Backend α) (now : PyFloat α) :
    Nav2BridgeCore α × Except BridgeFailure (List PollResult) :=
  let polled := pollLoop B now c.active.entries c.active []
  ({ c with active := polled.1 }, polled.2)

end Requests

/-! ## Requests that nothing comes between -/

section Agreement

variable {c c' : Nav2BridgeCore α} {nav : Navigator α} {robot : String}

lemma orRefused_eq_ok {β : Type} {x : Except Nav2BridgeError β} {b : β} :
    orRefused x = .ok b ↔ x = .ok b := by
  cases x <;> simp [orRefused]

lemma askReady_eq_ok {u : Unit} :
    askReady (.ofNavigator nav) robot = .ok u ↔ requireReady nav robot = .ok u := by
  simp only [askReady, requireReady, Backend.ofNavigator]
  cases nav.ready robot <;> simp

lemma requireIdle_cases (c : Nav2BridgeCore α) (robot : String) :
    (c.isBusy robot = false ∧ c.requireIdle robot = .ok ()) ∨
      c.isBusy robot = true ∧ ∃ e, c.requireIdle robot = .error e := by
  unfold requireIdle
  cases c.isBusy robot with
  | false => exact .inl ⟨rfl, rfl⟩
  | true => exact .inr ⟨rfl, _, rfl⟩

variable [Field α] [LinearOrder α] [IsStrictOrderedRing α] {F : FloatFormat α}

/-- A `navigate` whose two parts nothing comes between is the one of the core. -/
theorem navigate_eq_ok {destination via : Option String} {goal : Option (List (PyFloat α))}
    {poses : List (Pose α)} (now : PyFloat α) :
    c.navigate nav robot destination via goal = .ok (c', poses) ↔
      ∃ destination' notice,
        c.checkRequest (.ofNavigator nav) (.navigate robot destination via goal) =
            .ok (.navigate robot poses destination') ∧
          c.commitRequest F (.ofNavigator nav) now (.navigate robot poses destination') =
            (c', .ok notice) := by
  constructor
  · intro h
    obtain ⟨u, hrobot, h⟩ := exceptBind_eq_ok.mp h
    obtain ⟨⟨resolved, destination'⟩, hgoal, h⟩ := exceptBind_eq_ok.mp h
    obtain ⟨u', hready, h⟩ := exceptBind_eq_ok.mp h
    obtain ⟨u'', hidle, h⟩ := exceptBind_eq_ok.mp h
    obtain ⟨rfl, rfl⟩ := Prod.mk.inj (Except.ok.inj h)
    refine ⟨destination', .accepted robot ("nav_" ++ format03d (c.navSeq + 1)), ?_, ?_⟩
    · exact exceptBind_eq_ok.mpr ⟨u, orRefused_eq_ok.mpr hrobot, exceptBind_eq_ok.mpr
        ⟨_, orRefused_eq_ok.mpr hgoal, exceptBind_eq_ok.mpr ⟨u', askReady_eq_ok.mpr hready, rfl⟩⟩⟩
    · simp only [commitRequest, hidle]
      rfl
  · rintro ⟨destination', notice, hcheck, hcommit⟩
    obtain ⟨u, hrobot, h⟩ := exceptBind_eq_ok.mp hcheck
    obtain ⟨⟨resolved, destination''⟩, hgoal, h⟩ := exceptBind_eq_ok.mp h
    obtain ⟨u', hready, h⟩ := exceptBind_eq_ok.mp h
    have heq : CheckedRequest.navigate robot resolved destination'' =
        .navigate robot poses destination' := Except.ok.inj h
    injection heq with _ hposes hdestination
    subst hposes hdestination
    rcases requireIdle_cases c robot with ⟨-, hidle⟩ | ⟨-, e, hidle⟩
    · simp only [commitRequest, hidle] at hcommit
      obtain ⟨rfl, -⟩ := Prod.mk.inj hcommit
      exact exceptBind_eq_ok.mpr ⟨u, orRefused_eq_ok.mp hrobot, exceptBind_eq_ok.mpr
        ⟨_, orRefused_eq_ok.mp hgoal, exceptBind_eq_ok.mpr ⟨u', askReady_eq_ok.mp hready,
          exceptBind_eq_ok.mpr ⟨(), hidle, rfl⟩⟩⟩⟩
    · simp only [commitRequest, hidle] at hcommit
      cases (Prod.mk.inj hcommit).2

/-- A `wait` whose two parts nothing comes between is the one of the core. -/
theorem wait_eq_ok {duration : PyFloat α} :
    c.wait F nav robot duration = .ok c' ↔
      ∃ notice,
        c.checkRequest (.ofNavigator nav) (.wait robot duration) = .ok (.wait robot duration) ∧
          c.commitRequest F (.ofNavigator nav) nav.clock (.wait robot duration) =
            (c', .ok notice) := by
  constructor
  · intro h
    obtain ⟨u, hrobot, h⟩ := exceptBind_eq_ok.mp h
    obtain ⟨u', hduration, h⟩ := exceptBind_eq_ok.mp h
    obtain ⟨u'', hready, h⟩ := exceptBind_eq_ok.mp h
    obtain rfl := Except.ok.inj h
    exact ⟨_, exceptBind_eq_ok.mpr ⟨u, orRefused_eq_ok.mpr hrobot, exceptBind_eq_ok.mpr
      ⟨u', orRefused_eq_ok.mpr hduration, exceptBind_eq_ok.mpr ⟨u'', askReady_eq_ok.mpr hready,
        rfl⟩⟩⟩, rfl⟩
  · rintro ⟨notice, hcheck, hcommit⟩
    obtain ⟨u, hrobot, h⟩ := exceptBind_eq_ok.mp hcheck
    obtain ⟨u', hduration, h⟩ := exceptBind_eq_ok.mp h
    obtain ⟨u'', hready, -⟩ := exceptBind_eq_ok.mp h
    obtain ⟨rfl, -⟩ := Prod.mk.inj hcommit
    exact exceptBind_eq_ok.mpr ⟨u, orRefused_eq_ok.mp hrobot, exceptBind_eq_ok.mpr
      ⟨u', orRefused_eq_ok.mp hduration, exceptBind_eq_ok.mpr ⟨u'', askReady_eq_ok.mp hready, rfl⟩⟩⟩

/-- A `stop` whose two parts nothing comes between is the one of the core. -/
theorem stop_eq_ok {cancelled : Option String} (now : PyFloat α) :
    c.stop robot = .ok (c', cancelled) ↔
      c.checkRequest (.ofNavigator nav) (.stop robot) = .ok (.stop robot) ∧
        c.commitRequest F (.ofNavigator nav) now (.stop robot) =
          (c', .ok (.stopped robot cancelled)) := by
  constructor
  · intro h
    obtain ⟨u, hrobot, h⟩ := exceptBind_eq_ok.mp h
    obtain ⟨rfl, rfl⟩ := Prod.mk.inj (Except.ok.inj h)
    exact ⟨exceptBind_eq_ok.mpr ⟨u, orRefused_eq_ok.mpr hrobot, rfl⟩, rfl⟩
  · rintro ⟨hcheck, hcommit⟩
    obtain ⟨u, hrobot, -⟩ := exceptBind_eq_ok.mp hcheck
    obtain ⟨rfl, hnotice⟩ := Prod.mk.inj hcommit
    injection Except.ok.inj hnotice with _ hcancelled
    subst hcancelled
    exact exceptBind_eq_ok.mpr ⟨u, orRefused_eq_ok.mp hrobot, rfl⟩

end Agreement

section PollAgreement

variable [LinearOrder α] {nav : Navigator α}

lemma askCompleted_ofNavigator (robot : String) (task : NavTask α) :
    askCompleted (.ofNavigator nav) nav.clock robot task = .ok (completed nav robot task) := by
  obtain ⟨taskId, status, action⟩ := task
  cases status with
  | navigating =>
    simp only [askCompleted, completed, Backend.ofNavigator]
    cases nav.isComplete robot <;> rfl
  | waiting => cases action <;> rfl
  | done result => cases action <;> rfl

/-- A record after a poll. -/
def polled (nav : Navigator α) (robot : String) (task : NavTask α) : NavTask α :=
  match completed nav robot task with
  | some result => { task with navStatus := .done result }
  | none => task

omit [LinearOrder α] in
/-- Ending the first record of the rest of a poll leaves the others as they are. -/
lemma get?_set_of_notMem {es : List (String × NavTask α)} {active : Dict String (NavTask α)}
    {robot : String} (hrobot : robot ∉ es.map Prod.fst)
    (hactive : ∀ e ∈ es, active.get? e.1 = some e.2) (task : NavTask α) :
    ∀ e ∈ es, (active.set robot task).get? e.1 = some e.2 := by
  intro e he
  have hmem : e.1 ∈ es.map Prod.fst := List.mem_map_of_mem he
  have hne : e.1 ≠ robot := fun h => hrobot (h ▸ hmem)
  rw [Dict.get?_set_of_ne _ _ hne]
  exact hactive e he

variable (nav) in
/-- The loop of a poll in which the backend does not raise. -/
lemma pollLoop_ofNavigator {es : List (String × NavTask α)} (hes : (es.map Prod.fst).Nodup)
    {active : Dict String (NavTask α)} (hactive : ∀ e ∈ es, active.get? e.1 = some e.2)
    (out : List PollResult) :
    (pollLoop (.ofNavigator nav) nav.clock es active out).2 =
        .ok (out ++ es.filterMap fun e =>
          (completed nav e.1 e.2).map fun result => ⟨e.1, e.2.taskId, result⟩) ∧
      (∀ r, r ∉ es.map Prod.fst →
        (pollLoop (.ofNavigator nav) nav.clock es active out).1.get? r = active.get? r) ∧
      ∀ e ∈ es, (pollLoop (.ofNavigator nav) nav.clock es active out).1.get? e.1 =
        some (polled nav e.1 e.2) := by
  induction es generalizing active out with
  | nil =>
    refine ⟨?_, fun r _ => rfl, fun e he => absurd he List.not_mem_nil⟩
    rw [List.filterMap_nil, List.append_nil]
    rfl
  | cons e es ih =>
    obtain ⟨robot, task⟩ := e
    obtain ⟨hrobot, hes⟩ := List.nodup_cons.mp hes
    have hget : active.get? robot = some task := hactive _ List.mem_cons_self
    unfold pollLoop
    rw [askCompleted_ofNavigator]
    cases hdone : completed nav robot task with
    | none =>
      obtain ⟨hout, hother, hrecords⟩ :=
        ih hes (fun e he => hactive e (List.mem_cons_of_mem _ he)) out
      refine ⟨?_, fun r hr => hother r fun hmem => hr (List.mem_cons_of_mem _ hmem), ?_⟩
      · rw [List.filterMap_cons_none (by rw [hdone]; rfl)]
        exact hout
      · intro e he
        rcases List.mem_cons.mp he with rfl | he
        · have hsame : polled nav robot task = task := by simp only [polled, hdone]
          rw [hsame]
          exact (hother robot hrobot).trans hget
        · exact hrecords e he
    | some result =>
      have hrest := get?_set_of_notMem hrobot (fun e he => hactive e (List.mem_cons_of_mem _ he))
        { task with navStatus := .done result }
      obtain ⟨hout, hother, hrecords⟩ := ih hes hrest (out ++ [⟨robot, task.taskId, result⟩])
      refine ⟨?_, ?_, ?_⟩
      · rw [List.filterMap_cons_some (by rw [hdone]; rfl), List.append_cons]
        exact hout
      · intro r hr
        obtain ⟨hne, hmem⟩ := not_or.mp (mt List.mem_cons.mpr hr)
        exact (hother r hmem).trans (Dict.get?_set_of_ne _ _ hne)
      · intro e he
        rcases List.mem_cons.mp he with rfl | he
        · have hend : polled nav robot task = { task with navStatus := .done result } := by
            simp only [polled, hdone]
          rw [hend]
          exact (hother robot hrobot).trans (Dict.get?_set_self _ _ _)
        · exact hrecords e he

/-- A poll in which the backend does not raise is the one of the core. -/
theorem pollSection_ofNavigator (c : Nav2BridgeCore α) :
    (c.pollSection (.ofNavigator nav) nav.clock).2 = .ok (c.pollResults nav).2 ∧
      ∀ r, (c.pollSection (.ofNavigator nav) nav.clock).1.active.get? r =
        (c.pollResults nav).1.active.get? r := by
  obtain ⟨hout, hother, hrecords⟩ := pollLoop_ofNavigator nav c.active.nodup
    (fun e he => (c.active.mem_entries_iff).mp he) []
  refine ⟨hout, fun r => ?_⟩
  have hpoll : (c.pollResults nav).1.active.get? r = (c.active.get? r).map (polled nav r) :=
    Dict.get?_mapValues _ _ _
  rw [hpoll]
  cases hget : c.active.get? r with
  | none => exact (hother r (Dict.find_eq_none.mp hget)).trans hget
  | some task => exact hrecords (r, task) ((c.active.mem_entries_iff).mpr hget)

end PollAgreement

end Nav2BridgeCore

/-! ## The bridge -/

/-- The core, and the request that has made its checks. -/
structure Bridge (α : Type) where
  core : Nav2BridgeCore α
  inFlight : Option (CheckedRequest α)

/-- The arrival of a request, its section under the lock, or the section of a poll. -/
inductive BridgeEvent (α : Type)
  | arrive (request : BridgeRequest α) (B : Backend α)
  | locked (B : Backend α) (now : PyFloat α)
  | poll (B : Backend α) (now : PyFloat α)

namespace Bridge

variable {α : Type} [Field α] [LinearOrder α] [IsStrictOrderedRing α]

/-- The bridge as it is built. -/
def init (robots : List String) (locations : Dict String (Pose α)) : Bridge α :=
  ⟨.init robots locations, none⟩

/-- One event.  The event loop handles one request at a time: the next one arrives when the last has
been answered. -/
def step (F : FloatFormat α) (s : Bridge α) : BridgeEvent α → Bridge α × List Notice
  | .arrive request B =>
    match s.inFlight, s.core.checkRequest B request with
    | none, .ok checked => ({ s with inFlight := some checked }, [])
    | some _, _ | none, .error _ => (s, [])
  | .locked B now =>
    match s.inFlight with
    | none => (s, [])
    | some checked =>
      let (core, answer) := s.core.commitRequest F B now checked
      ({ core := core, inFlight := none }, answer.toOption.toList)
  | .poll B now =>
    let (core, out) := s.core.pollSection B now
    ({ s with core := core }, (out.toOption.getD []).map .result)

/-- The bridge as a state machine. -/
def machine (F : FloatFormat α) : Machine (Bridge α) (BridgeEvent α) (List Notice) := ⟨step F⟩

/-- What has left the bridge in a run. -/
def history (F : FloatFormat α) (s : Bridge α) (es : List (BridgeEvent α)) : List Notice :=
  ((machine F).outputs s es).flatten

end Bridge

end MiniatureWarehouse
