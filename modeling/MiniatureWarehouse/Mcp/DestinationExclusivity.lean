import MiniatureWarehouse.Framework.Reservation
import MiniatureWarehouse.Framework.Runs
import MiniatureWarehouse.Mcp.Tools
import Mathlib.Algebra.Order.Field.Rat

/-!
# No two deliveries to one destination

The policy gate refuses a delivery to a place another robot has been sent to.  It knows where a
robot was sent from its own bookkeeping, which it writes before the bridge has answered; the
bridge refuses a second goal for a busy robot, and its refusal is logged and dropped.  So the gate
may believe a robot to be under way to the place of a refused goal while the robot is still under
way to the place of the first one, and that first place is free for the taking.

This file runs the tools against the bridge.  Each call is made after the previous one has
returned, its request to the bridge included, because the executor awaits it.  As long as no
accepted call moves the reservation of a robot that keeps delivering, no two robots ever deliver
to the same place; one such call, and the next delivery can converge.
-/

namespace MiniatureWarehouse

namespace Fleet

/-- The gate, the bridge, and the tool action each robot's current navigation was started by.  The
last is history that nothing reads. -/
structure State (α : Type) where
  gate : PolicyGate α
  bridge : Nav2BridgeCore α
  startedBy : Dict String String

/-- The start of a run: no task, no reservation, no goal. -/
def State.init {α : Type} (emergency : Finset String) (robots : List String)
    (locations : Dict String (Pose α)) : State α :=
  ⟨.init emergency, .init robots locations, .empty⟩

/-- The place a robot is navigating to because a delivery was accepted. -/
def State.delivering {α : Type} (s : State α) (robot : String) : Option String :=
  if s.startedBy.get? robot = some "deliver" then s.bridge.navigatingTo robot else none

/-- The law: no two robots deliver to the same place. -/
def State.Exclusive {α : Type} (s : State α) : Prop :=
  ∀ r r' d, s.delivering r = some d → s.delivering r' = some d → r = r'

/-- What happens: a tool call with what it reads, the Guardian raising or clearing an emergency,
or a poll of the bridge. -/
inductive Event (α : Type)
  | call (call : ToolCall α) (gen : Except PyErr GenCheckResult) (reading : Reading α)
      (nav : Navigator α)
  | setEmergency (robot : String) (active : Bool)
  | poll (nav : Navigator α)

section Run

variable {α : Type} [Field α] [LinearOrder α] [IsStrictOrderedRing α] (F : FloatFormat α)
  (iso : IsoTimestamp α) (fresh : FreshnessThresholds α)

/-- A request reaches the bridge; a refusal of the bridge is dropped. -/
def State.forward (s : State α) (nav : Navigator α) (origin : String) :
    Nav2Request α → State α
  | .navigate robot destination via =>
    match s.bridge.navigate nav robot (some destination) via none with
    | .ok (bridge, _) =>
      { s with bridge := bridge, startedBy := s.startedBy.set robot origin }
    | .error _ => s
  | .wait robot duration =>
    match s.bridge.wait F nav robot duration with
    | .ok bridge => { s with bridge := bridge }
    | .error _ => s
  | .stop robot =>
    match s.bridge.stop robot with
    | .ok (bridge, _) => { s with bridge := bridge }
    | .error _ => s

/-- `dispatch`: the tool, and the request it is forwarded as when it was accepted. -/
def State.dispatch (s : State α) (call : ToolCall α) (gen : Except PyErr GenCheckResult)
    (reading : Reading α) (nav : Navigator α) : State α :=
  let (gate, result) := callTool F iso fresh s.gate gen reading call
  let s := { s with gate := gate }
  match result with
  | .ok payload =>
    match planNav2Request call payload with
    | some request => s.forward F nav (payload.action.getD "charging") request
    | none => s
  | _ => s

/-- The tools, the gate and the bridge as one machine. -/
def machine : Machine (State α) (Event α) Unit where
  step s
    | .call call gen reading nav => (s.dispatch F iso fresh call gen reading nav, ())
    | .setEmergency robot active => ({ s with gate := s.gate.setEmergency robot active }, ())
    | .poll nav => ({ s with bridge := (s.bridge.pollResults nav).1 }, ())

/-- The reservation a call makes, if it passes the checks: a robot and its new place. -/
def reserves (g : PolicyGate α) (gen : Except PyErr GenCheckResult) (r : Reading α) :
    ToolCall α → Option (String × String)
  | .dispatchTask (some robot) pickup (some dropoff) _ action _ =>
    match gen, g.validateDispatchInner F iso fresh r (some robot) pickup (some dropoff) action with
    | .ok ⟨none, _⟩, .ok () => some (robot, dropoff)
    | _, _ => none
  | .sendToCharging robot =>
    match gen, g.validateChargingInner F iso fresh r robot with
    | .ok ⟨none, _⟩, .ok () => some (robot, "charging_station")
    | _, _ => none
  | _ => none

omit [IsStrictOrderedRing α] in
/-- A call that ends the movement of its robot: a wait the bridge can carry out. -/
def interrupts (nav : Navigator α) : ToolCall α → Bool
  | .dispatchTask (some robot) _ _ _ action (some duration) =>
    action = "wait" && (Nav2BridgeCore.requireDuration duration).isOk && nav.ready robot
  | _ => false

/-- **The condition.**  The event is an accepted call that gives a robot another place than the
one it is delivering to, and that does not make it stop. -/
def redirects (s : State α) : Event α → Bool
  | .call call gen reading nav =>
    match reserves F iso fresh s.gate gen reading call with
    | some (robot, place) =>
      match s.delivering robot with
      | some place' => place' ≠ place && !interrupts nav call
      | none => false
    | none => false
  | _ => false

/-! ## The invariant -/

/-- The gate and the bridge agree: a delivering robot holds the reservation of its place, is known
to the bridge, and has an active task in the gate, so a cancel will find it. -/
structure Inv (s : State α) : Prop where
  agrees : Agrees s.delivering s.gate.dropoffs.get?
  tracked : ∀ r d, s.delivering r = some d →
    s.gate.activeTasks.contains r = true ∧ r ∈ s.bridge.robots

omit [Field α] [LinearOrder α] [IsStrictOrderedRing α] in
theorem inv_init (emergency : Finset String) (robots : List String)
    (locations : Dict String (Pose α)) : Inv (State.init emergency robots locations) where
  agrees := Agrees.idle _
  tracked _ _ h := nomatch h

section Frame

omit [Field α] [LinearOrder α] [IsStrictOrderedRing α]

variable {s s' : State α}

/-- Deliveries may end, as long as those that go on keep their bookkeeping. -/
theorem Inv.mono (h : Inv s) (hmoving : ∀ r d, s'.delivering r = some d → s.delivering r = some d)
    (hdropoffs : ∀ r d, s'.delivering r = some d → s.gate.dropoffs.get? r = some d →
      s'.gate.dropoffs.get? r = some d)
    (hactive : ∀ r d, s'.delivering r = some d → s.gate.activeTasks.contains r = true →
      s'.gate.activeTasks.contains r = true)
    (hrobots : s'.bridge.robots = s.bridge.robots) : Inv s' where
  agrees := h.agrees.mono hmoving hdropoffs
  tracked r d hr := by
    obtain ⟨htask, hknown⟩ := h.tracked r d (hmoving r d hr)
    rw [hrobots]
    exact ⟨hactive r d hr htask, hknown⟩

end Frame

/-! ## What a request does -/

omit [Field α] [LinearOrder α] [IsStrictOrderedRing α] in
/-- Between two states the bridge ended the movement of one robot, and nothing else happened. -/
structure Ends (s s' : State α) (robot : String) : Prop where
  gate : s'.gate = s.gate
  robots : s'.bridge.robots = s.bridge.robots
  delivering : ∀ r, s'.delivering r = if r = robot then none else s.delivering r

omit [Field α] [LinearOrder α] [IsStrictOrderedRing α] in
theorem ends_of_bridge {s : State α} {bridge : Nav2BridgeCore α} {robot : String}
    (hrobots : bridge.robots = s.bridge.robots)
    (hnav : ∀ r, bridge.navigatingTo r = if r = robot then none else s.bridge.navigatingTo r) :
    Ends s { s with bridge := bridge } robot where
  gate := rfl
  robots := hrobots
  delivering r := by
    unfold State.delivering
    rw [hnav r]
    split_ifs <;> rfl

omit [Field α] [LinearOrder α] [IsStrictOrderedRing α] in
theorem ends_of_idle {s : State α} {robot : String} (h : s.delivering robot = none) :
    Ends s s robot where
  gate := rfl
  robots := rfl
  delivering r := by
    split_ifs with hr
    · rw [hr, h]
    · rfl

variable {F}

/-- A stop ends the delivery of its robot, if there is one: the bridge knows every robot that
delivers. -/
theorem forward_stop {s : State α} {nav : Navigator α} {origin robot : String}
    (hknown : ∀ d, s.delivering robot = some d → robot ∈ s.bridge.robots) :
    Ends s (s.forward F nav origin (.stop robot)) robot := by
  by_cases hrobot : robot ∈ s.bridge.robots
  · obtain ⟨bridge, cancelled, hstop, hrobots, hnav⟩ := Nav2BridgeCore.stop_spec hrobot
    have hs : s.forward F nav origin (.stop robot) = { s with bridge := bridge } := by
      simp only [State.forward, hstop]
    rw [hs]
    exact ends_of_bridge hrobots hnav
  · have hidle : s.delivering robot = none := by
      rw [Option.eq_none_iff_forall_ne_some]
      intro d hd
      exact hrobot (hknown d hd)
    have hs : s.forward F nav origin (.stop robot) = s := by
      cases hstop : s.bridge.stop robot with
      | error e => simp only [State.forward, hstop]
      | ok result =>
        obtain ⟨u, hreq, -⟩ := exceptBind_eq_ok.mp hstop
        exact absurd (Nav2BridgeCore.requireRobot_eq_ok.mp hreq) hrobot
    rw [hs]
    exact ends_of_idle hidle

/-- A wait is refused, or it ends the movement of its robot. -/
theorem forward_wait (s : State α) (nav : Navigator α) (origin robot : String)
    (duration : PyFloat α) :
    s.forward F nav origin (.wait robot duration) = s ∨
      Ends s (s.forward F nav origin (.wait robot duration)) robot := by
  cases hwait : s.bridge.wait F nav robot duration with
  | error e => exact .inl (by simp only [State.forward, hwait])
  | ok bridge =>
    obtain ⟨hrobots, hnav⟩ := Nav2BridgeCore.wait_spec hwait
    have hs : s.forward F nav origin (.wait robot duration) = { s with bridge := bridge } := by
      simp only [State.forward, hwait]
    rw [hs]
    exact .inr (ends_of_bridge hrobots hnav)

/-- A wait of a valid length is carried out when the robot is known and ready. -/
theorem forward_wait_of_ready {s : State α} {nav : Navigator α} {origin robot : String}
    {duration : PyFloat α} (hrobot : robot ∈ s.bridge.robots)
    (hduration : (Nav2BridgeCore.requireDuration duration).isOk = true)
    (hready : nav.ready robot = true) :
    Ends s (s.forward F nav origin (.wait robot duration)) robot := by
  have hok : ∃ bridge, s.bridge.wait F nav robot duration = .ok bridge := by
    have h₁ : s.bridge.requireRobot robot = .ok () := Nav2BridgeCore.requireRobot_eq_ok.mpr hrobot
    have h₂ : Nav2BridgeCore.requireDuration duration = .ok () := by
      cases hd : Nav2BridgeCore.requireDuration duration with
      | error e => simp [hd, Except.isOk, Except.toBool] at hduration
      | ok u => rfl
    have h₃ : Nav2BridgeCore.requireReady nav robot = .ok () := if_pos hready
    rw [Nav2BridgeCore.wait, h₁, h₂, h₃]
    exact ⟨_, rfl⟩
  obtain ⟨bridge, hwait⟩ := hok
  obtain ⟨hrobots, hnav⟩ := Nav2BridgeCore.wait_spec hwait
  have hs : s.forward F nav origin (.wait robot duration) = { s with bridge := bridge } := by
    simp only [State.forward, hwait]
  rw [hs]
  exact ends_of_bridge hrobots hnav

/-- A navigation is refused, or it starts a movement of a robot that was not under way. -/
theorem forward_navigate (s : State α) (nav : Navigator α) (origin robot place : String)
    (via : Option String) :
    s.forward F nav origin (.navigate robot place via) = s ∨
      ((s.forward F nav origin (.navigate robot place via)).gate = s.gate ∧
        (s.forward F nav origin (.navigate robot place via)).bridge.robots = s.bridge.robots ∧
        robot ∈ s.bridge.robots ∧
        ∀ r, (s.forward F nav origin (.navigate robot place via)).delivering r =
          if r = robot then (if origin = "deliver" then some place else none)
          else s.delivering r) := by
  cases hnavigate : s.bridge.navigate nav robot (some place) via none with
  | error e => exact .inl (by simp only [State.forward, hnavigate])
  | ok result =>
    obtain ⟨bridge, poses⟩ := result
    obtain ⟨-, hrobots, hrobot, hnav⟩ := Nav2BridgeCore.navigate_spec hnavigate
    have hs : s.forward F nav origin (.navigate robot place via) =
        { s with bridge := bridge, startedBy := s.startedBy.set robot origin } := by
      simp only [State.forward, hnavigate]
    rw [hs]
    refine .inr ⟨rfl, hrobots, hrobot, ?_⟩
    intro r
    unfold State.delivering
    rw [Dict.get?_set, hnav r]
    by_cases hr : r = robot
    · simp [hr]
    · simp [hr]

/-! ## What a call does -/

/-- The state after a call was registered for a robot and a place, before it is forwarded. -/
def State.reserve (s : State α) (robot place : String) (now : PyFloat α) : State α :=
  { s with gate := (s.gate.registerTaskInner (some robot) (some place) now).1 }

omit [Field α] [LinearOrder α] [IsStrictOrderedRing α] in
theorem reserve_tracked (s : State α) (robot place : String) (now : PyFloat α) (r : String) :
    (s.reserve robot place now).gate.activeTasks.contains r =
      (r = robot || s.gate.activeTasks.contains r) :=
  s.gate.registerTaskInner_activeTasks robot (some place) now r

omit [Field α] [LinearOrder α] [IsStrictOrderedRing α] in
theorem reserve_dropoffs (s : State α) (robot place : String) (now : PyFloat α) (r : String) :
    (s.reserve robot place now).gate.dropoffs.get? r =
      if r = robot then some place else s.gate.dropoffs.get? r :=
  s.gate.registerTaskInner_dropoffs robot place now r

omit [Field α] [LinearOrder α] [IsStrictOrderedRing α] in
/-- A reservation that does not move a delivering robot's keeps the invariant. -/
theorem Inv.reserve {s : State α} (h : Inv s) {robot place : String} (now : PyFloat α)
    (hsame : ∀ d, s.delivering robot = some d → d = place) : Inv (s.reserve robot place now) := by
  refine h.mono (fun r d hr => hr) ?_ ?_ rfl
  · intro r d hr hres
    have hr : s.delivering r = some d := hr
    rw [reserve_dropoffs]
    by_cases hrobot : r = robot
    · rw [hrobot] at hr
      rw [if_pos hrobot, hsame d hr]
    · rw [if_neg hrobot]
      exact hres
  · intro r d hr htask
    rw [reserve_tracked, htask, Bool.or_true]

/-- A registered navigation is forwarded: a delivery that starts had its place to itself. -/
theorem Inv.navigate {s : State α} (h : Inv s) {nav : Navigator α} {origin robot place : String}
    {via : Option String} (now : PyFloat α)
    (hsame : ∀ d, s.delivering robot = some d → d = place)
    (hfree : origin = "deliver" → ∀ r, r ≠ robot → s.gate.dropoffs.get? r ≠ some place) :
    Inv ((s.reserve robot place now).forward F nav origin (.navigate robot place via)) := by
  have hres : Inv (s.reserve robot place now) := h.reserve now hsame
  rcases forward_navigate (F := F) (s.reserve robot place now) nav origin robot place via with
    hs | ⟨hgate, hrobots, hrobot, hdel⟩
  · rw [hs]
    exact hres
  · have hself : (s.reserve robot place now).gate.dropoffs.get? robot = some place := by
      rw [reserve_dropoffs, if_pos rfl]
    have htask : (s.reserve robot place now).gate.activeTasks.contains robot = true := by
      rw [reserve_tracked]
      simp
    constructor
    · rw [hgate]
      by_cases horigin : origin = "deliver"
      · refine hres.agrees.start (r := robot) (d := place) ?_ hself (fun _ _ => rfl) ?_ ?_
        · intro r hr
          rw [reserve_dropoffs, if_neg hr]
          exact hfree horigin r hr
        · intro r d hr hd
          rw [hdel r, if_neg hr] at hd
          exact hd
        · intro d hd
          rw [hdel robot, if_pos rfl, if_pos horigin] at hd
          exact (Option.some.inj hd).symm
      · refine hres.agrees.mono ?_ (fun _ _ _ hd => hd)
        intro r d hd
        rw [hdel r, if_neg horigin] at hd
        split_ifs at hd
        exact hd
    · intro r d hd
      rw [hgate, hrobots]
      by_cases hr : r = robot
      · rw [hr]
        exact ⟨htask, hrobot⟩
      · rw [hdel r, if_neg hr] at hd
        exact hres.tracked r d hd

omit [Field α] [LinearOrder α] [IsStrictOrderedRing α] in
/-- A robot whose movement has ended keeps nothing that the invariant is about. -/
theorem Inv.ends {s s₁ s' : State α} (h : Inv s) {robot : String} (hends : Ends s₁ s' robot)
    (hrobots : s₁.bridge.robots = s.bridge.robots) (hdel : s₁.delivering = s.delivering)
    (hdropoffs : ∀ r, r ≠ robot → s₁.gate.dropoffs.get? r = s.gate.dropoffs.get? r)
    (hactive : ∀ r, r ≠ robot →
      s₁.gate.activeTasks.contains r = s.gate.activeTasks.contains r) : Inv s' := by
  have hother : ∀ r d, s'.delivering r = some d → r ≠ robot ∧ s.delivering r = some d := by
    intro r d hr
    rw [hends.delivering r, hdel] at hr
    split_ifs at hr with hrobot
    exact ⟨hrobot, hr⟩
  have hkept : s'.bridge.robots = s.bridge.robots := hends.robots.trans hrobots
  refine h.mono (fun r d hr => (hother r d hr).2) ?_ ?_ hkept
  · intro r d hr hres
    rw [hends.gate, hdropoffs r (hother r d hr).1]
    exact hres
  · intro r d hr htask
    rw [hends.gate, hactive r (hother r d hr).1]
    exact htask

/-- A wait keeps the invariant. -/
theorem Inv.forward_wait {s : State α} (h : Inv s) (nav : Navigator α) (origin robot : String)
    (duration : PyFloat α) : Inv (s.forward F nav origin (.wait robot duration)) := by
  rcases Fleet.forward_wait (F := F) s nav origin robot duration with hs | hends
  · rw [hs]
    exact h
  · exact h.ends hends rfl rfl (fun _ _ => rfl) (fun _ _ => rfl)

/-- A registered wait is forwarded.  It may move the reservation of a delivering robot only if the
bridge makes the robot wait. -/
theorem Inv.wait {s : State α} (h : Inv s) {nav : Navigator α} {origin robot place : String}
    {duration : PyFloat α} (now : PyFloat α)
    (hsame : (∀ d, s.delivering robot = some d → d = place) ∨
      (Nav2BridgeCore.requireDuration duration).isOk = true ∧ nav.ready robot = true) :
    Inv ((s.reserve robot place now).forward F nav origin (.wait robot duration)) := by
  by_cases hdel : ∀ d, s.delivering robot = some d → d = place
  · exact (h.reserve now hdel).forward_wait nav origin robot duration
  · obtain ⟨hduration, hready⟩ := hsame.resolve_left hdel
    push Not at hdel
    obtain ⟨d, hd, -⟩ := hdel
    have hrobot : robot ∈ (s.reserve robot place now).bridge.robots := (h.tracked robot d hd).2
    refine h.ends (forward_wait_of_ready hrobot hduration hready) rfl rfl ?_ ?_
    · intro r hr
      rw [reserve_dropoffs, if_neg hr]
    · intro r hr
      rw [reserve_tracked]
      simp [hr]

omit [Field α] [LinearOrder α] [IsStrictOrderedRing α] in
/-- Clearing the bookkeeping of a robot whose movement ends keeps the invariant. -/
theorem Inv.clear {s s' : State α} (h : Inv s) {robot : String}
    (hends : Ends { s with gate := (s.gate.resolveAndClearActive robot).1 } s' robot) : Inv s' := by
  refine h.ends hends rfl rfl ?_ ?_
  · intro r hr
    exact s.gate.dropoffs.get?_erase_of_ne hr
  · intro r hr
    unfold Dict.contains
    rw [PolicyGate.resolveAndClearActive, Dict.get?_erase_of_ne _ hr]

/-- A cancel clears the bookkeeping of its robot and forwards a stop for it. -/
theorem Inv.cancel {s : State α} (h : Inv s) (nav : Navigator α) (origin robot : String) :
    Inv (({ s with gate := (s.gate.resolveAndClearActive robot).1 } : State α).forward F nav origin
      (.stop robot)) :=
  h.clear (forward_stop fun d hd => (h.tracked robot d hd).2)

variable (F) in
theorem dispatch_of_ok {s : State α} {call : ToolCall α} {gen : Except PyErr GenCheckResult}
    {reading : Reading α} {nav : Navigator α} {gate : PolicyGate α} {payload : Payload α}
    (h : callTool F iso fresh s.gate gen reading call = (gate, .ok payload)) :
    s.dispatch F iso fresh call gen reading nav =
      match planNav2Request call payload with
      | some request =>
        ({ s with gate := gate } : State α).forward F nav (payload.action.getD "charging") request
      | none => { s with gate := gate } := by
  simp only [State.dispatch, h]

variable (F) in
theorem dispatch_of_not_ok {s : State α} {call : ToolCall α} {gen : Except PyErr GenCheckResult}
    {reading : Reading α} {nav : Navigator α} {result : ToolResult α}
    (h : callTool F iso fresh s.gate gen reading call = (s.gate, result))
    (hresult : ∀ payload, result ≠ .ok payload) :
    s.dispatch F iso fresh call gen reading nav = s := by
  cases result with
  | ok payload => exact absurd rfl (hresult payload)
  | rejected reason => simp only [State.dispatch, h]
  | error e => simp only [State.dispatch, h]
  | read => simp only [State.dispatch, h]

theorem inv_cancelTask {s : State α} (h : Inv s) (taskId : String) (cur : ℤ)
    (reading : Reading α) (nav : Navigator α) :
    Inv (s.dispatch F iso fresh (.cancelTask taskId) (.ok ⟨none, cur⟩) reading nav) := by
  have hcall : callTool F iso fresh s.gate (.ok ⟨none, cur⟩) reading (.cancelTask taskId) =
      cancelTask s.gate taskId := rfl
  unfold cancelTask at hcall
  cases hcurrent : currentRobot? taskId with
  | some robot =>
    simp only [hcurrent] at hcall
    cases hactive : s.gate.activeTasks.get? robot with
    | some resolved =>
      have hresolved : (s.gate.resolveAndClearActive robot).2 = some resolved := hactive
      simp only [hresolved] at hcall
      rw [dispatch_of_ok F iso fresh hcall]
      exact h.cancel nav _ robot
    | none =>
      -- the robot has no task, so it is not delivering and loses nothing
      have hidle : s.delivering robot = none := by
        rw [Option.eq_none_iff_forall_ne_some]
        intro d hd
        have htask := (h.tracked robot d hd).1
        simp [Dict.contains, hactive] at htask
      have hresolved : (s.gate.resolveAndClearActive robot).2 = none := hactive
      simp only [hresolved] at hcall
      have hs : s.dispatch F iso fresh (.cancelTask taskId) (.ok ⟨none, cur⟩) reading nav =
          { s with gate := (s.gate.resolveAndClearActive robot).1 } := by
        simp only [State.dispatch, hcall]
      rw [hs]
      exact h.clear (ends_of_idle hidle)
  | none =>
    simp only [hcurrent] at hcall
    unfold PolicyGate.resolveAndClearByTaskId at hcall
    cases hfind : s.gate.activeTasks.entries.find? fun e => e.2 = taskId with
    | none =>
      simp only [hfind] at hcall
      rw [dispatch_of_ok F iso fresh hcall]
      exact h
    | some owned =>
      obtain ⟨owner, id⟩ := owned
      simp only [hfind] at hcall
      rw [dispatch_of_ok F iso fresh hcall]
      exact h.cancel nav _ owner

variable {iso fresh}

/-- A call that redirects nobody leaves its robot the place it is delivering to, or stops it. -/
theorem kept_of_not_redirects {s : State α} {call : ToolCall α} {gen : Except PyErr GenCheckResult}
    {reading : Reading α} {nav : Navigator α} {robot place : String}
    (hC : redirects F iso fresh s (.call call gen reading nav) = false)
    (hreserves : reserves F iso fresh s.gate gen reading call = some (robot, place)) :
    (∀ d, s.delivering robot = some d → d = place) ∨ interrupts nav call = true := by
  by_cases hstops : interrupts nav call = true
  · exact .inr hstops
  · left
    intro d hd
    simpa [redirects, hreserves, hd, hstops] using hC

theorem inv_sendToCharging {s : State α} (h : Inv s) (robot : String) (cur : ℤ)
    {reading : Reading α} {nav : Navigator α}
    (hC : redirects F iso fresh s
      (.call (.sendToCharging robot) (.ok ⟨none, cur⟩) reading nav) = false) :
    Inv (s.dispatch F iso fresh (.sendToCharging robot) (.ok ⟨none, cur⟩) reading nav) := by
  have hcall : callTool F iso fresh s.gate (.ok ⟨none, cur⟩) reading (.sendToCharging robot) =
      ((s.gate.validateAndRegisterCharging F iso fresh reading robot).1,
        .ofDispatch (fun taskId =>
          ⟨taskId, some robot, none, some "charging_station", none, none⟩)
        (s.gate.validateAndRegisterCharging F iso fresh reading robot).2) := rfl
  rcases s.gate.registerIf_cases (s.gate.validateChargingInner F iso fresh reading robot)
      (some robot) (some "charging_station") reading.now with ⟨refusal, -, hreg⟩ | ⟨hok, hreg⟩
  · rw [PolicyGate.validateAndRegisterCharging, hreg] at hcall
    rw [dispatch_of_not_ok F iso fresh hcall]
    · exact h
    · intro payload heq
      cases refusal <;> cases heq
  · rw [PolicyGate.validateAndRegisterCharging, hreg] at hcall
    rw [dispatch_of_ok F iso fresh hcall]
    have hreserves : reserves F iso fresh s.gate (.ok ⟨none, cur⟩) reading (.sendToCharging robot) =
        some (robot, "charging_station") := by
      simp only [reserves, hok]
    have hsame : ∀ d, s.delivering robot = some d → d = "charging_station" := by
      rcases kept_of_not_redirects hC hreserves with hkept | hstops
      · exact hkept
      · cases hstops
    have horigin : "charging" ≠ "deliver" := by decide
    exact h.navigate reading.now hsame (fun heq => absurd heq horigin)

omit [Field α] [LinearOrder α] [IsStrictOrderedRing α] in
/-- A registration without a place moves no reservation. -/
theorem Inv.register {s : State α} (h : Inv s) (robot : String) (now : PyFloat α) :
    Inv { s with gate := (s.gate.registerTaskInner (some robot) none now).1 } := by
  refine h.mono (fun _ _ hd => hd) (fun _ _ _ hd => hd) ?_ rfl
  intro r d hd htask
  rw [PolicyGate.registerTaskInner_activeTasks, htask, Bool.or_true]

/-- A dispatch registered for a place is forwarded as a wait or as a navigation, or not at all. -/
theorem Inv.dispatchTo {s : State α} (h : Inv s) {robot place action : String}
    {pickup via : Option String} {duration : Option (PyFloat α)} {nav : Navigator α} (taskId : String)
    (now : PyFloat α)
    (hkept : (∀ d, s.delivering robot = some d → d = place) ∨
      interrupts nav (.dispatchTask (some robot) pickup (some place) via action duration) = true)
    (hfree : action = "deliver" → ∀ r, r ≠ robot → s.gate.dropoffs.get? r ≠ some place) :
    Inv (match planNav2Request
        (.dispatchTask (some robot) pickup (some place) via action duration)
        ⟨taskId, some robot, some action, some place, via, duration⟩ with
      | some request => (s.reserve robot place now).forward F nav action request
      | none => s.reserve robot place now) := by
  by_cases hwait : action = "wait"
  · cases duration with
    | none =>
      -- a wait without a length goes nowhere, and does not stop the robot
      have hsame := hkept.resolve_right (by simp [interrupts])
      simp only [planNav2Request, hwait]
      exact h.reserve now hsame
    | some duration =>
      have hsame : (∀ d, s.delivering robot = some d → d = place) ∨
          (Nav2BridgeCore.requireDuration duration).isOk = true ∧ nav.ready robot = true := by
        simpa [interrupts, hwait] using hkept
      simp only [planNav2Request, hwait]
      exact h.wait now hsame
  · have hmoves : ¬ interrupts nav
        (.dispatchTask (some robot) pickup (some place) via action duration) = true := by
      cases duration <;> simp [interrupts, hwait]
    have hsame := hkept.resolve_right hmoves
    simp only [planNav2Request, Option.some.injEq, hwait]
    exact h.navigate now hsame hfree

theorem inv_dispatchTask {s : State α} (h : Inv s) (robot pickup dropoff via : Option String)
    (action : String) (duration : Option (PyFloat α)) (cur : ℤ)
    {reading : Reading α} {nav : Navigator α}
    (hC : redirects F iso fresh s
      (.call (.dispatchTask robot pickup dropoff via action duration) (.ok ⟨none, cur⟩) reading
        nav) = false) :
    Inv (s.dispatch F iso fresh (.dispatchTask robot pickup dropoff via action duration)
      (.ok ⟨none, cur⟩) reading nav) := by
  have hcall : callTool F iso fresh s.gate (.ok ⟨none, cur⟩) reading
      (.dispatchTask robot pickup dropoff via action duration) =
      ((s.gate.validateAndRegisterDispatch F iso fresh reading robot pickup dropoff action).1,
        .ofDispatch (fun taskId => ⟨taskId, robot, some action, dropoff, via, duration⟩)
        (s.gate.validateAndRegisterDispatch F iso fresh reading robot pickup dropoff action).2) :=
    rfl
  rcases s.gate.registerIf_cases
      (s.gate.validateDispatchInner F iso fresh reading robot pickup dropoff action)
      robot dropoff reading.now with ⟨refusal, -, hreg⟩ | ⟨hok, hreg⟩
  · rw [PolicyGate.validateAndRegisterDispatch, hreg] at hcall
    rw [dispatch_of_not_ok F iso fresh hcall]
    · exact h
    · intro payload heq
      cases refusal <;> cases heq
  · rw [PolicyGate.validateAndRegisterDispatch, hreg] at hcall
    rw [dispatch_of_ok F iso fresh hcall]
    cases robot with
    | none => exact h.mono (fun _ _ hd => hd) (fun _ _ _ hd => hd) (fun _ _ _ ht => ht) rfl
    | some robot =>
      cases dropoff with
      | none =>
        have hregister := h.register robot reading.now
        by_cases hwait : action = "wait"
        · cases duration with
          | none =>
            simp only [planNav2Request, hwait]
            exact hregister
          | some duration =>
            simp only [planNav2Request, hwait]
            exact hregister.forward_wait nav _ robot duration
        · simp only [planNav2Request, Option.some.injEq, hwait]
          exact hregister
      | some place =>
        have hreserves : reserves F iso fresh s.gate (.ok ⟨none, cur⟩) reading
            (.dispatchTask (some robot) pickup (some place) via action duration) =
            some (robot, place) := by
          simp only [reserves, hok]
        have hfree : action = "deliver" →
            ∀ r, r ≠ robot → s.gate.dropoffs.get? r ≠ some place := by
          intro hdeliver
          rw [hdeliver] at hok
          exact PolicyGate.validateDispatchInner_deliver hok
        exact h.dispatchTo _ reading.now (kept_of_not_redirects hC hreserves) hfree

/-- **The step lemma.**  Every event that redirects no delivering robot keeps the invariant. -/
theorem inv_step (s : State α) (e : Event α) (hC : redirects F iso fresh s e = false) (h : Inv s) :
    Inv ((machine F iso fresh).step s e).1 := by
  cases e with
  | setEmergency robot active =>
    exact h.mono (fun _ _ hd => hd) (fun _ _ _ hd => hd) (fun _ _ _ ht => ht) rfl
  | poll nav =>
    obtain ⟨hrobots, hnav⟩ := s.bridge.pollResults_spec nav
    refine h.mono ?_ (fun _ _ _ hd => hd) (fun _ _ _ ht => ht) hrobots
    intro r d hd
    unfold State.delivering at hd ⊢
    split_ifs at hd with horigin
    have hstarted : s.startedBy.get? r = some "deliver" := horigin
    rw [if_pos hstarted]
    exact hnav r d hd
  | call call gen reading nav =>
    cases gen with
    | error e =>
      have hcall : callTool F iso fresh s.gate (.error e) reading call = (s.gate, .error e) := rfl
      have hs : s.dispatch F iso fresh call (.error e) reading nav = s :=
        dispatch_of_not_ok F iso fresh hcall (by intro payload heq; cases heq)
      show Inv (s.dispatch F iso fresh call (.error e) reading nav)
      rw [hs]
      exact h
    | ok result =>
      obtain ⟨reason, cur⟩ := result
      cases reason with
      | some reason =>
        have hcall : callTool F iso fresh s.gate (.ok ⟨some reason, cur⟩) reading call =
          (s.gate, .rejected reason.text) := rfl
        have hs : s.dispatch F iso fresh call (.ok ⟨some reason, cur⟩) reading nav = s :=
          dispatch_of_not_ok F iso fresh hcall (by intro payload heq; cases heq)
        show Inv (s.dispatch F iso fresh call (.ok ⟨some reason, cur⟩) reading nav)
        rw [hs]
        exact h
      | none =>
        cases call with
        | dispatchTask robot pickup dropoff via action duration =>
          exact inv_dispatchTask h robot pickup dropoff via action duration cur hC
        | cancelTask taskId => exact inv_cancelTask iso fresh h taskId cur reading nav
        | sendToCharging robot => exact inv_sendToCharging h robot cur hC
        | passive => exact h

/-- **Destination exclusivity.**  In every run from the empty state in which no accepted call moves
the reservation of a robot that keeps delivering, no two robots are ever under way to the same
place because of accepted deliveries. -/
theorem deliveries_exclusive (emergency : Finset String) (robots : List String)
    (locations : Dict String (Pose α)) {es : List (Event α)}
    (hC : (machine F iso fresh).AllSteps (fun s e => redirects F iso fresh s e = false)
      (State.init emergency robots locations) es) :
    (machine F iso fresh).Always State.Exclusive (State.init emergency robots locations) es := by
  rw [Machine.always_iff]
  intro pre post hes
  rw [hes] at hC
  have hpre := ((machine F iso fresh).allSteps_append _ _ pre post).mp hC
  have hinv : Inv ((machine F iso fresh).run (State.init emergency robots locations) pre) :=
    Machine.run_invariant inv_step hpre.1 (inv_init emergency robots locations)
  exact hinv.agrees.exclusive

end Run

/-! ## Two runs of a small fleet -/

section Runs

/-- The epoch seconds of the two timestamps the runs read. -/
def isoNewYear : IsoTimestamp ℚ
  | "2026-01-01T00:00:00+00:00" => some (.ok (.fin 1767225600))
  | "2026-01-01T00:00:01+00:00" => some (.ok (.fin 1767225601))
  | _ => none

/-- A state file with two charged robots, read a tenth of a second after it was written. -/
def newYearReading (timestamp : String) (now : ℚ) : Reading ℚ where
  state := .ok (.dict [("timestamp", .str timestamp),
    ("robots", .dict [("bot1", .dict [("battery", .int 80)]),
      ("bot2", .dict [("battery", .int 90)])])])
  now := .fin now

/-- A navigator that is ready and still busy with what it was sent. -/
def busyNavigator : Navigator ℚ := ⟨fun _ => true, fun _ => false, fun _ => .succeeded, .fin 0⟩

/-- The fleet before the first call. -/
def smallFleet : State ℚ :=
  .init ∅ ["bot1", "bot2"]
    ⟨[("shelf_1", .fin (1 / 5), .fin (57 / 100)), ("shelf_2", .fin (7 / 10), .fin (57 / 100))],
      by decide⟩

/-- A delivery in the first or the second of the new year. -/
def deliver (robot place : String) (second : ℕ) : Event ℚ :=
  .call (.dispatchTask (some robot) none (some place) none "deliver" none) (.ok ⟨none, 1⟩)
    (if second = 0 then newYearReading "2026-01-01T00:00:00+00:00" (1767225600 + 1 / 10)
      else newYearReading "2026-01-01T00:00:01+00:00" (1767225601 + 1 / 10))
    busyNavigator

/-- Two robots end up delivering to the first shelf: one of them was sent there, and a second
delivery of that robot, which the bridge refuses because it is busy, frees the place for the
other. -/
theorem busy_robot_frees_its_destination :
    let run := [deliver "bot1" "shelf_1" 0, deliver "bot1" "shelf_2" 1, deliver "bot2" "shelf_1" 1]
    let s := (machine (FloatFormat.exact ℚ) isoNewYear .default).run smallFleet run
    s.delivering "bot1" = some "shelf_1" ∧ s.delivering "bot2" = some "shelf_1" ∧
      ¬ (machine (FloatFormat.exact ℚ) isoNewYear .default).Always State.Exclusive smallFleet
        run := by
  have h₁ : ((machine (FloatFormat.exact ℚ) isoNewYear .default).run smallFleet
      [deliver "bot1" "shelf_1" 0, deliver "bot1" "shelf_2" 1, deliver "bot2" "shelf_1" 1]).delivering
        "bot1" = some "shelf_1" := by decide +kernel
  have h₂ : ((machine (FloatFormat.exact ℚ) isoNewYear .default).run smallFleet
      [deliver "bot1" "shelf_1" 0, deliver "bot1" "shelf_2" 1, deliver "bot2" "shelf_1" 1]).delivering
        "bot2" = some "shelf_1" := by decide +kernel
  refine ⟨h₁, h₂, ?_⟩
  intro h
  have hlast : State.Exclusive ((machine (FloatFormat.exact ℚ) isoNewYear .default).run smallFleet
      [deliver "bot1" "shelf_1" 0, deliver "bot1" "shelf_2" 1, deliver "bot2" "shelf_1" 1]) :=
    (Machine.always_iff _ _ _ _).mp h _ [] (List.append_nil _).symm
  exact absurd (hlast "bot1" "bot2" "shelf_1" h₁ h₂) (by decide)

/-- The second robot is refused the shelf the first one is delivering to, and is then sent to the
other one: no call redirects anybody. -/
theorem deliveries_exclusive_small :
    let run := [deliver "bot1" "shelf_1" 0, deliver "bot2" "shelf_1" 0, deliver "bot2" "shelf_2" 1]
    let M := machine (FloatFormat.exact ℚ) isoNewYear .default
    M.AllSteps (fun s e => redirects (FloatFormat.exact ℚ) isoNewYear .default s e = false)
        smallFleet run ∧
      (M.run smallFleet run).delivering "bot1" = some "shelf_1" ∧
      (M.run smallFleet run).delivering "bot2" = some "shelf_2" ∧
      M.Always State.Exclusive smallFleet run :=
  ⟨by decide +kernel, by decide +kernel, by decide +kernel,
    deliveries_exclusive ∅ ["bot1", "bot2"] _ (by decide +kernel)⟩

end Runs

end Fleet

end MiniatureWarehouse
