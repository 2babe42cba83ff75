import MiniatureWarehouse.Traffic.TrafficLogic
import MiniatureWarehouse.Nav2Bridge.Core
import MiniatureWarehouse.Framework.Runs

/-!
# Submissions that leave locks behind

A submission takes the aisles of the route before the bridge is asked, and it does not give them
back where the bridge raises.  So a robot that was refused keeps its aisles, and another one waits
for them.

`submission_atomic` gives the exact condition under which a submission that does not send the robot
leaves the locks and their stamps as they were, and what follows of a manager whose submissions all
meet it: only a robot that has been sent holds an aisle.
-/

namespace MiniatureWarehouse

namespace SimpleTrafficManager

variable {τ ε : Type*}

/-- A submission that returns waiting, or raises, leaves the locks and the stamps as they were. -/
def Atomic (m : SimpleTrafficManager τ) (bridge : Option (Nav2BridgeLike ε))
    (robot pickup dropoff : String) (now : Option τ) : Prop :=
  (m.submitTask bridge robot pickup dropoff now).2 ≠ .ok .sent →
    (m.submitTask bridge robot pickup dropoff now).1.aisleLocks = m.aisleLocks ∧
      (m.submitTask bridge robot pickup dropoff now).1.acquiredAt = m.acquiredAt

/-- The robot has the aisles already, each with the stamp it would get now. -/
def Holds (m : SimpleTrafficManager τ) (robot : String) (now : Option τ) (route : List String) :
    Prop :=
  ∀ aisle ∈ route, m.aisleLocks.get? aisle = some (some robot) ∧
    ∀ t, now = some t → m.acquiredAt.get? aisle = some t

/-- Another robot keeps this one out of its route, or the bridge accepts the robot where there is a
bridge, or there is nothing to take. -/
def Leakless (m : SimpleTrafficManager τ) (bridge : Option (Nav2BridgeLike ε))
    (robot pickup dropoff : String) (now : Option τ) : Prop :=
  (∃ aisle ∈ m.planRoute pickup dropoff, m.Blocked robot aisle) ∨
    (∀ navigate ∈ bridge, navigate robot dropoff = .ok ()) ∨
    m.Holds robot now (m.planRoute pickup dropoff)

/-! ## One submission -/

/-- Storing one value along a route changes nothing exactly where it is stored already. -/
lemma foldl_set_eq_self_iff {ν : Type*} {d : Dict String ν} {v : ν} {route : List String} :
    route.foldl (fun d aisle => d.set aisle v) d = d ↔
      ∀ aisle ∈ route, d.get? aisle = some v := by
  constructor
  · intro h aisle hmem
    rw [← h, get?_foldl_set, if_pos hmem]
  · intro h
    induction route with
    | nil => rfl
    | cons aisle route ih =>
      obtain ⟨hhead, htail⟩ := List.forall_mem_cons.mp h
      rw [List.foldl_cons, Dict.set_of_get?_eq_some hhead]
      exact ih htail

/-- Taking the aisles of a route changes nothing exactly where the robot has them. -/
lemma acquireAll_eq_self_iff {m : SimpleTrafficManager τ} {robot : String} {now : Option τ}
    {route : List String} :
    (route.foldl (acquire robot now) m).aisleLocks = m.aisleLocks ∧
        (route.foldl (acquire robot now) m).acquiredAt = m.acquiredAt ↔
      m.Holds robot now route := by
  rw [aisleLocks_acquireAll, acquiredAt_acquireAll, foldl_set_eq_self_iff]
  cases now with
  | none =>
    constructor
    · rintro ⟨hlocks, -⟩ aisle hmem
      exact ⟨hlocks aisle hmem, fun t ht => by cases ht⟩
    · intro h
      exact ⟨fun aisle hmem => (h aisle hmem).1, rfl⟩
  | some now =>
    dsimp only
    rw [foldl_set_eq_self_iff]
    constructor
    · rintro ⟨hlocks, hstamps⟩ aisle hmem
      refine ⟨hlocks aisle hmem, fun t ht => ?_⟩
      rw [← Option.some.inj ht]
      exact hstamps aisle hmem
    · intro h
      exact ⟨fun aisle hmem => (h aisle hmem).1, fun aisle hmem => (h aisle hmem).2 now rfl⟩

lemma atomic_iff (m : SimpleTrafficManager τ) (bridge : Option (Nav2BridgeLike ε))
    (robot pickup dropoff : String) (now : Option τ) :
    m.Atomic bridge robot pickup dropoff now ↔ m.Leakless bridge robot pickup dropoff now := by
  have hspec := m.submitTask_submission bridge robot pickup dropoff now
  unfold Atomic Leakless
  generalize m.submitTask bridge robot pickup dropoff now = result at hspec
  cases hspec with
  | waits hmem hblocked reason => exact iff_of_true (fun _ => ⟨rfl, rfl⟩) (.inl ⟨_, hmem, hblocked⟩)
  | sends hfree haccepts => exact iff_of_true (fun h => absurd rfl h) (.inr (.inl haccepts))
  | raises hfree hbridge hraises =>
    rw [acquireAll_eq_self_iff]
    constructor
    · intro h
      exact .inr (.inr (h fun hsent => by cases hsent))
    · rintro (⟨aisle, hmem, hblocked⟩ | haccepts | hholds) -
      · exact absurd hblocked (hfree aisle hmem)
      · have hok := haccepts _ hbridge
        rw [hraises] at hok
        cases hok
      · exact hholds

/-! ## Runs -/

/-- The calls of the manager that change it. -/
inductive Call (τ ε : Type*)
  | submit (bridge : Option (Nav2BridgeLike ε)) (robot pickup dropoff : String) (now : Option τ)
  | release (robot aisle : String)

/-- The manager as its calls are handled, with the robot that each call sends. -/
def calls (τ ε : Type*) : Machine (SimpleTrafficManager τ) (Call τ ε) (Option String) where
  step
    | m, .submit bridge robot pickup dropoff now =>
      let (m', result) := m.submitTask bridge robot pickup dropoff now
      (m', if result matches .ok .sent then some robot else none)
    | m, .release robot aisle => (m.releaseAisle robot aisle, none)

/-- The condition on a call. -/
def LeaklessCall (m : SimpleTrafficManager τ) : Call τ ε → Prop
  | .submit bridge robot pickup dropoff now => m.Leakless bridge robot pickup dropoff now
  | .release _ _ => True

/-- An occupant after a call was one before it, or is the robot that the call sends. -/
lemma occupant_step {m : SimpleTrafficManager τ} {call : Call τ ε} (hcall : m.LeaklessCall call)
    {aisle robot : String} (h : ((calls τ ε).step m call).1.occupant aisle = some robot) :
    m.occupant aisle = some robot ∨ ((calls τ ε).step m call).2 = some robot := by
  cases call with
  | release r a =>
    have hrelease : (m.releaseAisle r a).occupant aisle = some robot := h
    rw [occupant_releaseAisle] at hrelease
    split_ifs at hrelease
    exact .inl hrelease
  | submit bridge r pickup dropoff now =>
    have hspec := m.submitTask_submission bridge r pickup dropoff now
    have hatomic := (m.atomic_iff bridge r pickup dropoff now).mpr hcall
    unfold Atomic at hatomic
    unfold calls at h ⊢
    dsimp only at h ⊢
    generalize m.submitTask bridge r pickup dropoff now = result at hspec hatomic h
    cases hspec with
    | waits hmem hblocked reason => exact .inl h
    | sends hfree haccepts =>
      rw [occupant_acquireAll] at h
      split_ifs at h with hmem
      · exact .inr h
      · exact .inl h
    | raises hfree hbridge hraises =>
      refine .inl ?_
      unfold occupant at h ⊢
      rwa [(hatomic fun hsent => by cases hsent).1] at h

/-- Only a robot that has been sent holds an aisle. -/
lemma sent_of_occupant {m : SimpleTrafficManager τ} (hm : ∀ aisle, m.occupant aisle = none)
    {cs : List (Call τ ε)} (hcs : (calls τ ε).AllSteps LeaklessCall m cs) :
    ∀ aisle robot, ((calls τ ε).run m cs).occupant aisle = some robot →
      some robot ∈ (calls τ ε).outputs m cs := by
  refine Machine.run_history_of_allSteps (M := calls τ ε) (C := LeaklessCall)
    (I := fun cs m' => ∀ aisle robot, m'.occupant aisle = some robot →
      some robot ∈ (calls τ ε).outputs m cs) ?_ ?_ hcs
  · intro aisle robot h
    rw [hm aisle] at h
    cases h
  · intro past call hcall ih aisle robot h
    rw [Machine.outputs_append, List.mem_append]
    rcases occupant_step hcall h with hbefore | hsent
    · exact .inl (ih aisle robot hbefore)
    · exact .inr (List.mem_singleton.mpr hsent.symm)

/-- A submission that does not send the robot leaves everything as it was exactly where it is
leakless; and in every run of a new manager whose calls all are, only a robot that has been sent
holds an aisle. -/
theorem submission_atomic :
    (∀ (m : SimpleTrafficManager τ) (bridge : Option (Nav2BridgeLike ε))
      (robot pickup dropoff : String) (now : Option τ),
      m.Atomic bridge robot pickup dropoff now ↔ m.Leakless bridge robot pickup dropoff now) ∧
    ∀ (planRoute : String → String → List String) (cs : List (Call τ ε)),
      (calls τ ε).AllSteps LeaklessCall (init planRoute) cs →
      ∀ aisle robot, ((calls τ ε).run (init planRoute) cs).occupant aisle = some robot →
        some robot ∈ (calls τ ε).outputs (init planRoute) cs :=
  ⟨atomic_iff, fun _ _ hcs => sent_of_occupant (fun _ => rfl) hcs⟩

/-- The bridge of a core that knows two robots and no location. -/
def emptyMap : Nav2BridgeLike Nav2BridgeError := fun robot destination =>
  ((Nav2BridgeCore.init (α := ℚ) ["bot1", "bot2"] .empty).navigate
    ⟨fun _ => true, fun _ => false, fun _ => .failed, .fin 0⟩ robot (some destination) none none).map
    fun _ => ()

/-- Two robots that have to pass the same aisle. -/
def oneAisle : SimpleTrafficManager ℕ := init fun _ _ => ["route_A"]

/-- The second robot is kept out of the aisle of the first before the bridge could refuse it. -/
theorem submission_atomic_one_aisle :
    ∀ aisle robot,
      ((calls ℕ Nav2BridgeError).run oneAisle
        [.submit none "bot1" "berth_A" "shelf_1" none,
          .submit (some emptyMap) "bot2" "berth_B" "shelf_2" none]).occupant aisle = some robot →
      some robot ∈ (calls ℕ Nav2BridgeError).outputs oneAisle
        [.submit none "bot1" "berth_A" "shelf_1" none,
          .submit (some emptyMap) "bot2" "berth_B" "shelf_2" none] := by
  refine submission_atomic.2 (fun _ _ => ["route_A"]) _ ⟨?_, ?_, trivial⟩
  · exact .inr (.inl fun navigate h => by cases h)
  · exact .inl ⟨"route_A", List.mem_singleton_self _, "bot1", rfl, by decide, by decide⟩

/-- The bridge refuses the destination, and the robot holds the aisle that nobody held. -/
theorem submission_leaks : ¬ oneAisle.Atomic (some emptyMap) "bot1" "berth_A" "nowhere" none := by
  intro h
  have hlocks := (h fun hsent => by cases hsent).1
  have hget := congrArg (fun d : Dict String (Option String) => d.get? "route_A") hlocks
  cases hget

end SimpleTrafficManager

end MiniatureWarehouse
