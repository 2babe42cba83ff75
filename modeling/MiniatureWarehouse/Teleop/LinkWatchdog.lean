import MiniatureWarehouse.Teleop.OperatorLink
import Mathlib.Algebra.Order.Field.Rat

/-!
# The operator link watchdog

The watchdog latches the operator stop when the heartbeats of the operator's console stop.  Two
of its methods judge the age of the last heartbeat: `evaluate` trips the latch, `rearm` releases
it.  Their comparisons are written the other way round, and both fail towards the stop: an age
that is missing, negative or beyond the timeout trips the latch and refuses the release.

The last heartbeat is a fact about the calls made so far (`lastHeartbeat`), so the law of the
latch speaks of the history and never of the fields of the object.
-/

namespace MiniatureWarehouse

namespace OperatorLink

open CrossingApproval

/-- `REASON_LINK_LOSS`. -/
def reasonLinkLoss : String := "link_loss"

/-- `LinkVerdict`; there is no age before the first heartbeat. -/
structure LinkVerdict (α : Type) where
  engaged : Bool
  reasonCode : Option String
  ageS : Option (PyFloat α)
  deriving DecidableEq

/-- `LinkWatchdog`, with a timeout that has passed the constructor. -/
structure LinkWatchdog (α : Type) [Field α] [LinearOrder α] where
  timeoutS : α
  timeout_pos : 0 < timeoutS
  lastHeartbeatMonoS : Option α
  engaged : Bool

namespace LinkWatchdog

variable {α : Type} [Field α] [LinearOrder α] [IsStrictOrderedRing α] (F : FloatFormat α)

/-- `LinkWatchdog(...)`: never observed is lost. -/
def build (timeoutS : PyVal α) : Except PyErr (LinkWatchdog α) :=
  match SessionGuard.requireFinite F timeoutS with
  | .error e => .error e
  | .ok timeout => if h : 0 < timeout then .ok ⟨timeout, h, none, true⟩ else .error .valueError

/-- `observe_heartbeat`. -/
def observeHeartbeat (w : LinkWatchdog α) (nowMonoS : PyVal α) :
    LinkWatchdog α × Except PyErr Bool :=
  match finiteNumber? F nowMonoS with
  | .error e => (w, .error e)
  | .ok none => (w, .ok false)
  | .ok (some now) => ({ w with lastHeartbeatMonoS := some now }, .ok true)

/-- `_age`. -/
def age (w : LinkWatchdog α) (nowMonoS : PyVal α) : Except PyErr (Option (PyFloat α)) :=
  match w.lastHeartbeatMonoS with
  | none => .ok none
  | some last => (finiteNumber? F nowMonoS).map (Option.map fun now => F.sub (.fin now) (.fin last))

/-- `is_fresh`. -/
def isFresh (w : LinkWatchdog α) (nowMonoS : PyVal α) : Except PyErr Bool :=
  (w.age F nowMonoS).map fun
    | none => false
    | some age => decide (.fin 0 ≤ age ∧ age ≤ .fin w.timeoutS)

omit [IsStrictOrderedRing α] in
/-- Does an age trip the latch? -/
def trips (w : LinkWatchdog α) : Option (PyFloat α) → Bool
  | none => true
  | some age => decide (.fin w.timeoutS < age ∨ age < .fin 0)

/-- `evaluate`. -/
def evaluate (w : LinkWatchdog α) (nowMonoS : PyVal α) :
    LinkWatchdog α × Except PyErr (LinkVerdict α) :=
  match w.age F nowMonoS with
  | .error e => (w, .error e)
  | .ok age =>
    let engaged := w.trips age || w.engaged
    ({ w with engaged := engaged },
      .ok ⟨engaged, if engaged then some reasonLinkLoss else none, age⟩)

/-- `rearm`. -/
def rearm (w : LinkWatchdog α) (nowMonoS : PyVal α) : LinkWatchdog α × Except PyErr Bool :=
  match w.isFresh F nowMonoS with
  | .error e => (w, .error e)
  | .ok false => (w, .ok false)
  | .ok true => ({ w with engaged := false }, .ok true)

end LinkWatchdog

/-! ## The watchdog over a run of calls -/

/-- A call of the watchdog, with the clock reading it is given. -/
inductive LinkCall (α : Type)
  | heartbeat (nowMonoS : PyVal α)
  | evaluate (nowMonoS : PyVal α)
  | rearm (nowMonoS : PyVal α)

/-- What a call returns. -/
inductive LinkReply (α : Type)
  | flag (b : Bool)
  | verdict (v : LinkVerdict α)

section Runs

variable {α : Type} [Field α] [LinearOrder α] [IsStrictOrderedRing α] (F : FloatFormat α)

/-- The watchdog as a machine. -/
def linkMachine : Machine (LinkWatchdog α) (LinkCall α) (Except PyErr (LinkReply α)) where
  step w
    | .heartbeat now => ((w.observeHeartbeat F now).1, (w.observeHeartbeat F now).2.map .flag)
    | .evaluate now => ((w.evaluate F now).1, (w.evaluate F now).2.map .verdict)
    | .rearm now => ((w.rearm F now).1, (w.rearm F now).2.map .flag)

/-- The heartbeat a call records: one with a finite clock reading. -/
def LinkCall.heartbeat? : LinkCall α → Option α
  | .heartbeat now =>
    match finiteNumber? F now with
    | .ok time? => time?
    | .error _ => none
  | _ => none

/-- The time of the last heartbeat recorded in a run of calls. -/
def lastHeartbeat (calls : List (LinkCall α)) : Option α :=
  (calls.filterMap (LinkCall.heartbeat? F)).getLast?

/-- The heartbeat age at a clock reading is in `[0, timeout]`. -/
def HeartbeatFresh (timeout : α) (calls : List (LinkCall α)) (nowMonoS : PyVal α) : Prop :=
  ∃ last now, lastHeartbeat F calls = some last ∧ finiteNumber? F nowMonoS = .ok (some now) ∧
    .fin 0 ≤ F.sub (.fin now) (.fin last) ∧ F.sub (.fin now) (.fin last) ≤ .fin timeout

/-- The object remembers its timeout and the last heartbeat of the calls made so far. -/
structure Remembers (timeout : α) (calls : List (LinkCall α)) (w : LinkWatchdog α) : Prop where
  timeoutS : w.timeoutS = timeout
  lastHeartbeatMonoS : w.lastHeartbeatMonoS = lastHeartbeat F calls

variable {F}

/-- A call that records no heartbeat leaves the last one as it was. -/
lemma lastHeartbeat_concat_of_none {call : LinkCall α} (h : call.heartbeat? F = none)
    (calls : List (LinkCall α)) : lastHeartbeat F (calls ++ [call]) = lastHeartbeat F calls := by
  unfold lastHeartbeat
  rw [List.filterMap_append, List.filterMap_cons_none h, List.filterMap_nil, List.append_nil]

lemma lastHeartbeat_concat_of_some {call : LinkCall α} {time : α}
    (h : call.heartbeat? F = some time) (calls : List (LinkCall α)) :
    lastHeartbeat F (calls ++ [call]) = some time := by
  unfold lastHeartbeat
  rw [List.filterMap_append, List.filterMap_cons_some h, List.filterMap_nil, List.getLast?_concat]

/-- `evaluate` moves nothing but the latch. -/
lemma LinkWatchdog.evaluate_frame (w : LinkWatchdog α) (now : PyVal α) :
    (w.evaluate F now).1.timeoutS = w.timeoutS ∧
      (w.evaluate F now).1.lastHeartbeatMonoS = w.lastHeartbeatMonoS := by
  unfold LinkWatchdog.evaluate
  split <;> exact ⟨rfl, rfl⟩

/-- `rearm` moves nothing but the latch. -/
lemma LinkWatchdog.rearm_frame (w : LinkWatchdog α) (now : PyVal α) :
    (w.rearm F now).1.timeoutS = w.timeoutS ∧
      (w.rearm F now).1.lastHeartbeatMonoS = w.lastHeartbeatMonoS := by
  unfold LinkWatchdog.rearm
  split <;> exact ⟨rfl, rfl⟩

/-- A heartbeat moves nothing but the last heartbeat. -/
lemma LinkWatchdog.observeHeartbeat_frame (w : LinkWatchdog α) (now : PyVal α) :
    (w.observeHeartbeat F now).1.timeoutS = w.timeoutS ∧
      (w.observeHeartbeat F now).1.engaged = w.engaged := by
  unfold LinkWatchdog.observeHeartbeat
  split <;> exact ⟨rfl, rfl⟩

lemma Remembers.step {timeout : α} {calls : List (LinkCall α)} {w : LinkWatchdog α}
    (h : Remembers F timeout calls w) (call : LinkCall α) :
    Remembers F timeout (calls ++ [call]) ((linkMachine F).step w call).1 := by
  cases call with
  | heartbeat now =>
    refine ⟨(w.observeHeartbeat_frame now).1.trans h.timeoutS, ?_⟩
    show (w.observeHeartbeat F now).1.lastHeartbeatMonoS = _
    unfold LinkWatchdog.observeHeartbeat
    split
    · rename_i hnow
      rw [lastHeartbeat_concat_of_none (by simp only [LinkCall.heartbeat?, hnow])]
      exact h.lastHeartbeatMonoS
    · rename_i hnow
      rw [lastHeartbeat_concat_of_none (by simp only [LinkCall.heartbeat?, hnow])]
      exact h.lastHeartbeatMonoS
    · rename_i time hnow
      have hheartbeat : LinkCall.heartbeat? F (.heartbeat now) = some time := by
        simp only [LinkCall.heartbeat?, hnow]
      rw [lastHeartbeat_concat_of_some hheartbeat]
  | evaluate now =>
    refine ⟨(w.evaluate_frame now).1.trans h.timeoutS, ?_⟩
    rw [lastHeartbeat_concat_of_none rfl]
    exact (w.evaluate_frame now).2.trans h.lastHeartbeatMonoS
  | rearm now =>
    refine ⟨(w.rearm_frame now).1.trans h.timeoutS, ?_⟩
    rw [lastHeartbeat_concat_of_none rfl]
    exact (w.rearm_frame now).2.trans h.lastHeartbeatMonoS

lemma remembers_run {w : LinkWatchdog α} (hw : w.lastHeartbeatMonoS = none)
    (calls : List (LinkCall α)) :
    Remembers F w.timeoutS calls ((linkMachine F).run w calls) :=
  Machine.run_history ⟨rfl, hw⟩ (fun _ call h => h.step call) calls

/-! ### The two comparisons -/

/-- What `_age` reports, in terms of the calls made so far. -/
lemma Remembers.age_eq_some {timeout : α} {calls : List (LinkCall α)} {w : LinkWatchdog α}
    (h : Remembers F timeout calls w) {now : PyVal α} {age : PyFloat α} :
    w.age F now = .ok (some age) ↔ ∃ last t, lastHeartbeat F calls = some last ∧
      finiteNumber? F now = .ok (some t) ∧ F.sub (.fin t) (.fin last) = age := by
  unfold LinkWatchdog.age
  rw [h.lastHeartbeatMonoS]
  cases lastHeartbeat F calls with
  | none => simp
  | some last =>
    simp only [exceptMap_eq_ok, Option.map_eq_some_iff, Option.some.injEq]
    constructor
    · rintro ⟨_, hnow, t, rfl, hage⟩
      exact ⟨last, t, rfl, hnow, hage⟩
    · rintro ⟨_, t, rfl, hnow, hage⟩
      exact ⟨_, hnow, t, rfl, hage⟩

/-- The release asks for a fresh heartbeat. -/
lemma Remembers.fresh_of_isFresh {timeout : α} {calls : List (LinkCall α)} {w : LinkWatchdog α}
    (h : Remembers F timeout calls w) {now : PyVal α} (hfresh : w.isFresh F now = .ok true) :
    HeartbeatFresh F timeout calls now := by
  unfold LinkWatchdog.isFresh at hfresh
  obtain ⟨age?, hage, hdec⟩ := exceptMap_eq_ok.mp hfresh
  cases age? with
  | none => cases hdec
  | some age =>
    obtain ⟨last, t, hlast, ht, rfl⟩ := h.age_eq_some.mp hage
    have hbounds := of_decide_eq_true hdec
    rw [h.timeoutS] at hbounds
    exact ⟨last, t, hlast, ht, hbounds⟩

/-- An age that does not trip the latch is fresh: both comparisons fail towards the stop, and a
difference of finite clock readings is never `NaN`. -/
lemma Remembers.fresh_of_not_trips {timeout : α} {calls : List (LinkCall α)} {w : LinkWatchdog α}
    (h : Remembers F timeout calls w) {now : PyVal α} {age? : Option (PyFloat α)}
    (hage : w.age F now = .ok age?) (htrips : w.trips age? = false) :
    HeartbeatFresh F timeout calls now := by
  cases age? with
  | none => cases htrips
  | some age =>
    obtain ⟨last, t, hlast, ht, rfl⟩ := h.age_eq_some.mp hage
    have hnan : F.sub (.fin t) (.fin last) ≠ .nan := F.round_ne_nan _
    have hbounds := of_decide_eq_false htrips
    push Not at hbounds
    rw [h.timeoutS] at hbounds
    refine ⟨last, t, hlast, ht, ?_, ?_⟩
    · exact PyFloat.le_of_not_lt (by simp) hnan hbounds.2
    · exact PyFloat.le_of_not_lt hnan (by simp) hbounds.1

/-- The only call that releases the latch is a re-arm with a fresh heartbeat. -/
lemma Remembers.release {timeout : α} {calls : List (LinkCall α)} {w : LinkWatchdog α}
    (h : Remembers F timeout calls w) {call : LinkCall α} (hbefore : w.engaged = true)
    (hafter : ((linkMachine F).step w call).1.engaged = false) :
    ∃ now, call = .rearm now ∧ HeartbeatFresh F timeout calls now := by
  cases call with
  | heartbeat now =>
    have hsame := (w.observeHeartbeat_frame (F := F) now).2
    rw [hbefore] at hsame
    exact absurd (hsame.symm.trans hafter) (by simp)
  | evaluate now =>
    have hkept : (w.evaluate F now).1.engaged = true := by
      unfold LinkWatchdog.evaluate
      split
      · exact hbefore
      · simp [hbefore]
    exact absurd (hkept.symm.trans hafter) (by simp)
  | rearm now =>
    refine ⟨now, rfl, ?_⟩
    change (w.rearm F now).1.engaged = false at hafter
    unfold LinkWatchdog.rearm at hafter
    split at hafter
    · exact absurd (hbefore.symm.trans hafter) (by simp)
    · exact absurd (hbefore.symm.trans hafter) (by simp)
    · rename_i hfresh
      exact h.fresh_of_isFresh hfresh

/-- An evaluation that returns and leaves the latch open saw a fresh heartbeat. -/
lemma Remembers.fresh_of_evaluate {timeout : α} {calls : List (LinkCall α)} {w : LinkWatchdog α}
    (h : Remembers F timeout calls w) {now : PyVal α} {v : LinkVerdict α}
    (hv : (w.evaluate F now).2 = .ok v) (hopen : (w.evaluate F now).1.engaged = false) :
    HeartbeatFresh F timeout calls now := by
  unfold LinkWatchdog.evaluate at hv hopen
  cases hage : w.age F now with
  | error e =>
    rw [hage] at hv
    cases hv
  | ok age? =>
    rw [hage] at hopen
    exact h.fresh_of_not_trips hage (Bool.or_eq_false_iff.mp hopen).1

/-- An evaluation at a float returns, and its verdict is the state of the latch after it. -/
lemma LinkWatchdog.evaluate_float (w : LinkWatchdog α) (now : PyFloat α) :
    ∃ v, (w.evaluate F (.float now)).2 = .ok v ∧
      v.engaged = (w.evaluate F (.float now)).1.engaged := by
  have hage : ∃ age?, w.age F (.float now) = .ok age? := by
    unfold LinkWatchdog.age
    cases w.lastHeartbeatMonoS with
    | none => exact ⟨none, rfl⟩
    | some last => cases now <;> exact ⟨_, rfl⟩
  obtain ⟨age?, hage⟩ := hage
  unfold LinkWatchdog.evaluate
  rw [hage]
  exact ⟨_, rfl, rfl⟩

/-- A latch that is closed and later open was released by a re-arm in between. -/
lemma release_between {w₀ : LinkWatchdog α} (hw : w₀.lastHeartbeatMonoS = none)
    (pre mid : List (LinkCall α)) (hbefore : ((linkMachine F).run w₀ pre).engaged = true)
    (hafter : ((linkMachine F).run w₀ (pre ++ mid)).engaged = false) :
    ∃ mid₁ now mid₂, mid = mid₁ ++ .rearm now :: mid₂ ∧
      HeartbeatFresh F w₀.timeoutS (pre ++ mid₁) now := by
  induction mid using List.reverseRecOn with
  | nil =>
    rw [List.append_nil, hbefore] at hafter
    cases hafter
  | append_singleton mid call ih =>
    rw [← List.append_assoc, Machine.run_concat] at hafter
    by_cases hclosed : ((linkMachine F).run w₀ (pre ++ mid)).engaged = true
    · obtain ⟨now, rfl, hfresh⟩ := (remembers_run hw (pre ++ mid)).release hclosed hafter
      exact ⟨mid, now, [], rfl, hfresh⟩
    · obtain ⟨mid₁, now, mid₂, rfl, hfresh⟩ := ih (Bool.not_eq_true _ ▸ hclosed)
      exact ⟨mid₁, now, mid₂ ++ [call], by simp, hfresh⟩

variable (F) in
/-- **The latch fails towards the stop.**  A watchdog is built engaged.  In every run of its calls,
with any clock readings, a latch that was engaged and is open later was released by a re-arm at
which the heartbeat age was in `[0, timeout]`; and an evaluation that leaves it open was made while
the heartbeat age was in `[0, timeout]`.  Every evaluation at a float returns, with the state of
the latch as its verdict. -/
theorem watchdog_fails_closed (timeoutS : PyVal α) (w : LinkWatchdog α)
    (hbuild : LinkWatchdog.build F timeoutS = .ok w) :
    w.engaged = true ∧
      (∀ pre mid, ((linkMachine F).run w pre).engaged = true →
        ((linkMachine F).run w (pre ++ mid)).engaged = false →
          ∃ mid₁ now mid₂, mid = mid₁ ++ .rearm now :: mid₂ ∧
            HeartbeatFresh F w.timeoutS (pre ++ mid₁) now) ∧
      (∀ calls now v, (((linkMachine F).run w calls).evaluate F now).2 = .ok v →
        ((linkMachine F).run w (calls ++ [.evaluate now])).engaged = false →
          HeartbeatFresh F w.timeoutS calls now) ∧
      ∀ calls (now : PyFloat α), ∃ v,
        (((linkMachine F).run w calls).evaluate F (.float now)).2 = .ok v ∧
          v.engaged = ((linkMachine F).run w (calls ++ [.evaluate (.float now)])).engaged := by
  have hnew : w.engaged = true ∧ w.lastHeartbeatMonoS = none := by
    unfold LinkWatchdog.build at hbuild
    split at hbuild
    · cases hbuild
    · split_ifs at hbuild
      · rw [← Except.ok.inj hbuild]
        exact ⟨rfl, rfl⟩
  refine ⟨hnew.1, fun pre mid => release_between hnew.2 pre mid, ?_, ?_⟩
  · intro calls now v hv hopen
    rw [Machine.run_concat] at hopen
    exact (remembers_run hnew.2 calls).fresh_of_evaluate hv hopen
  · intro calls now
    rw [Machine.run_concat]
    exact LinkWatchdog.evaluate_float _ now

end Runs

/-- The law at a watchdog with a timeout of one second: a run that ends open went through a
re-arm. -/
theorem watchdog_fails_closed_one_second :
    ∃ mid₁ now mid₂, [LinkCall.heartbeat (.float (.fin 5)), .rearm (.float (.fin (11 / 2)))] =
        mid₁ ++ .rearm now :: mid₂ ∧
      HeartbeatFresh (FloatFormat.exact ℚ) 1 mid₁ now :=
  (watchdog_fails_closed (FloatFormat.exact ℚ) (.float (.fin 1)) ⟨1, one_pos, none, true⟩
    (by with_unfolding_all rfl)).2.1 [] _ rfl (by with_unfolding_all rfl)

end OperatorLink

end MiniatureWarehouse
