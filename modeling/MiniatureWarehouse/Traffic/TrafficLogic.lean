import MiniatureWarehouse.Framework.Values

/-!
# The aisle locks of the traffic manager

A task names a pickup and a dropoff, and a planner names the aisles between them.  A robot whose
aisles are all free, or its own, takes them and is sent; another one waits, and nothing changes.
The bridge that the robot is sent through is asked after the aisles are taken, and it may raise.

The manager ignores what the bridge returns, so a call carries no more of it than whether it raises.
-/

namespace MiniatureWarehouse

/-- What `submit_task` returns. -/
inductive SubmitResult
  | sent
  | waiting (reason waitFor : String)
  deriving DecidableEq, Repr

/-- `navigate` of the bridge. -/
abbrev Nav2BridgeLike (ε : Type*) := String → String → Except ε Unit

/-- `SimpleTrafficManager`: the planner, the occupant of each aisle that has had one, and when it
took it. -/
structure SimpleTrafficManager (τ : Type*) where
  planRoute : String → String → List String
  aisleLocks : Dict String (Option String)
  acquiredAt : Dict String τ

namespace SimpleTrafficManager

variable {τ ε : Type*}

/-- The manager as it is built. -/
def init (planRoute : String → String → List String) : SimpleTrafficManager τ :=
  ⟨planRoute, .empty, .empty⟩

/-- The occupant of an aisle. -/
def occupant (m : SimpleTrafficManager τ) (aisle : String) : Option String :=
  m.aisleLocks.getD aisle none

/-- The occupant that keeps a robot out of an aisle: an empty name occupies nothing. -/
def blocker (m : SimpleTrafficManager τ) (robot aisle : String) : Option String :=
  (m.occupant aisle).filter fun other => other ≠ "" ∧ other ≠ robot

/-- The first aisle of a route that the robot is kept out of. -/
def firstBlocked (m : SimpleTrafficManager τ) (robot : String) (route : List String) :
    Option (String × String) :=
  route.findSome? fun aisle => (m.blocker robot aisle).map (aisle, ·)

/-- A robot takes an aisle, with a stamp where the caller gives the time. -/
def acquire (robot : String) (now : Option τ) (m : SimpleTrafficManager τ) (aisle : String) :
    SimpleTrafficManager τ :=
  { m with
    aisleLocks := m.aisleLocks.set aisle (some robot)
    acquiredAt := match now with
      | none => m.acquiredAt
      | some now => m.acquiredAt.set aisle now }

/-- `submit_task`. -/
def submitTask (m : SimpleTrafficManager τ) (bridge : Option (Nav2BridgeLike ε))
    (robot pickup dropoff : String) (now : Option τ) :
    SimpleTrafficManager τ × Except ε SubmitResult :=
  let route := m.planRoute pickup dropoff
  match m.firstBlocked robot route with
  | some (aisle, other) => (m, .ok (.waiting (aisle ++ " occupied by " ++ other) aisle))
  | none =>
    let locked := route.foldl (acquire robot now) m
    match bridge with
    | none => (locked, .ok .sent)
    | some navigate => (locked, (navigate robot dropoff).map fun _ => .sent)

/-- `release_aisle`. -/
def releaseAisle (m : SimpleTrafficManager τ) (robot aisle : String) : SimpleTrafficManager τ :=
  if m.occupant aisle = some robot then
    { m with
      aisleLocks := m.aisleLocks.set aisle none
      acquiredAt := m.acquiredAt.erase aisle }
  else m

/-! ## Taking the aisles of a route -/

/-- The aisle keeps the robot out. -/
def Blocked (m : SimpleTrafficManager τ) (robot aisle : String) : Prop :=
  ∃ other, m.occupant aisle = some other ∧ other ≠ "" ∧ other ≠ robot

lemma blocker_eq_some {m : SimpleTrafficManager τ} {robot aisle other : String} :
    m.blocker robot aisle = some other ↔
      m.occupant aisle = some other ∧ other ≠ "" ∧ other ≠ robot := by
  unfold blocker
  rw [Option.filter_eq_some_iff, decide_eq_true_iff]

lemma firstBlocked_eq_none {m : SimpleTrafficManager τ} {robot : String} {route : List String} :
    m.firstBlocked robot route = none ↔ ∀ aisle ∈ route, ¬ m.Blocked robot aisle := by
  unfold firstBlocked
  rw [List.findSome?_eq_none_iff]
  refine forall₂_congr fun aisle _ => ?_
  rw [Option.map_eq_none_iff, Option.eq_none_iff_forall_ne_some]
  constructor
  · rintro h ⟨other, hother⟩
    exact h other (blocker_eq_some.mpr hother)
  · intro h other hother
    exact h ⟨other, blocker_eq_some.mp hother⟩

lemma blocked_of_firstBlocked {m : SimpleTrafficManager τ} {robot aisle other : String}
    {route : List String} (h : m.firstBlocked robot route = some (aisle, other)) :
    aisle ∈ route ∧ m.Blocked robot aisle := by
  obtain ⟨aisle', hmem, hsome⟩ := List.exists_of_findSome?_eq_some h
  obtain ⟨other', hother, hpair⟩ := Option.map_eq_some_iff.mp hsome
  obtain ⟨rfl, rfl⟩ := Prod.mk.inj hpair
  exact ⟨hmem, other', blocker_eq_some.mp hother⟩

@[simp] lemma planRoute_acquireAll (m : SimpleTrafficManager τ) (robot : String) (now : Option τ)
    (route : List String) : (route.foldl (acquire robot now) m).planRoute = m.planRoute := by
  induction route generalizing m with
  | nil => rfl
  | cons aisle route ih => exact ih _

/-- What a robot does along its route to a table of aisles: every aisle of the route has the value,
and no other aisle changes. -/
lemma get?_foldl_set {ν : Type*} (d : Dict String ν) (v : ν) (route : List String) (a : String) :
    (route.foldl (fun d aisle => d.set aisle v) d).get? a =
      if a ∈ route then some v else d.get? a := by
  induction route generalizing d with
  | nil => rfl
  | cons aisle route ih =>
    rw [List.foldl_cons, ih, Dict.get?_set]
    by_cases htail : a ∈ route
    · rw [if_pos htail, if_pos (List.mem_cons_of_mem aisle htail)]
    · rw [if_neg htail]
      by_cases hhead : a = aisle
      · rw [if_pos hhead, if_pos (List.mem_cons.mpr (.inl hhead))]
      · rw [if_neg hhead, if_neg fun h => (List.mem_cons.mp h).elim hhead htail]

lemma aisleLocks_acquireAll (m : SimpleTrafficManager τ) (robot : String) (now : Option τ)
    (route : List String) :
    (route.foldl (acquire robot now) m).aisleLocks =
      route.foldl (fun d aisle => d.set aisle (some robot)) m.aisleLocks := by
  induction route generalizing m with
  | nil => rfl
  | cons aisle route ih => exact ih _

lemma acquiredAt_acquireAll (m : SimpleTrafficManager τ) (robot : String) (now : Option τ)
    (route : List String) :
    (route.foldl (acquire robot now) m).acquiredAt =
      match now with
      | none => m.acquiredAt
      | some now => route.foldl (fun d aisle => d.set aisle now) m.acquiredAt := by
  induction route generalizing m with
  | nil => cases now <;> rfl
  | cons aisle route ih =>
    rw [List.foldl_cons, ih]
    cases now <;> rfl

/-- A route that is taken is occupied by the robot, and no other aisle changes its occupant. -/
lemma occupant_acquireAll (m : SimpleTrafficManager τ) (robot : String) (now : Option τ)
    (route : List String) (a : String) :
    (route.foldl (acquire robot now) m).occupant a =
      if a ∈ route then some robot else m.occupant a := by
  unfold occupant Dict.getD
  rw [aisleLocks_acquireAll, get?_foldl_set]
  split_ifs <;> rfl

lemma occupant_releaseAisle (m : SimpleTrafficManager τ) (robot aisle a : String) :
    (m.releaseAisle robot aisle).occupant a =
      if a = aisle ∧ m.occupant a = some robot then none else m.occupant a := by
  unfold releaseAisle
  by_cases hocc : m.occupant aisle = some robot
  · rw [if_pos hocc]
    unfold occupant Dict.getD
    rw [Dict.get?_set]
    by_cases ha : a = aisle
    · rw [if_pos ha, if_pos ⟨ha, by rw [ha]; exact hocc⟩]
      rfl
    · rw [if_neg ha, if_neg fun h => ha h.1]
  · rw [if_neg hocc, if_neg]
    rintro ⟨rfl, h⟩
    exact hocc h

@[simp] lemma planRoute_releaseAisle (m : SimpleTrafficManager τ) (robot aisle : String) :
    (m.releaseAisle robot aisle).planRoute = m.planRoute := by
  unfold releaseAisle
  split_ifs <;> rfl

/-! ## What a submission does -/

/-- What a submission comes to: the robot waits, and nothing changes; it takes its aisles and is
sent; or it takes them and the bridge raises. -/
inductive Submission (m : SimpleTrafficManager τ) (bridge : Option (Nav2BridgeLike ε))
    (robot pickup dropoff : String) (now : Option τ) :
    SimpleTrafficManager τ × Except ε SubmitResult → Prop
  | waits {aisle : String} (hmem : aisle ∈ m.planRoute pickup dropoff)
      (hblocked : m.Blocked robot aisle) (reason : String) :
      Submission m bridge robot pickup dropoff now (m, .ok (.waiting reason aisle))
  | sends (hfree : ∀ aisle ∈ m.planRoute pickup dropoff, ¬ m.Blocked robot aisle)
      (haccepts : ∀ navigate ∈ bridge, navigate robot dropoff = .ok ()) :
      Submission m bridge robot pickup dropoff now
        ((m.planRoute pickup dropoff).foldl (acquire robot now) m, .ok .sent)
  | raises (hfree : ∀ aisle ∈ m.planRoute pickup dropoff, ¬ m.Blocked robot aisle)
      {navigate : Nav2BridgeLike ε} (hbridge : bridge = some navigate) {e : ε}
      (hraises : navigate robot dropoff = .error e) :
      Submission m bridge robot pickup dropoff now
        ((m.planRoute pickup dropoff).foldl (acquire robot now) m, .error e)

lemma submitTask_submission (m : SimpleTrafficManager τ) (bridge : Option (Nav2BridgeLike ε))
    (robot pickup dropoff : String) (now : Option τ) :
    m.Submission bridge robot pickup dropoff now
      (m.submitTask bridge robot pickup dropoff now) := by
  unfold submitTask
  dsimp only
  cases hblocked : m.firstBlocked robot (m.planRoute pickup dropoff) with
  | some first =>
    obtain ⟨hmem, hblocked⟩ := blocked_of_firstBlocked hblocked
    exact .waits hmem hblocked _
  | none =>
    have hfree := firstBlocked_eq_none.mp hblocked
    cases bridge with
    | none => exact .sends hfree fun navigate h => by cases h
    | some navigate =>
      dsimp only
      cases hnavigate : navigate robot dropoff with
      | ok =>
        refine .sends hfree fun other hother => ?_
        rw [← Option.some.inj hother]
        exact hnavigate
      | error e => exact .raises hfree rfl hnavigate

end SimpleTrafficManager

end MiniatureWarehouse
