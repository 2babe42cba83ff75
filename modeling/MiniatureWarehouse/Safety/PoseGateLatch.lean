import MiniatureWarehouse.Framework.Runs
import MiniatureWarehouse.Safety.GuardLogic

/-!
# The displacement gate as a latch

The gate of the pose-freshness rule is decided from what the `PoseGateTracker` has accumulated
since the last pose, and the accumulation is meant to be the latch: once the gate is open it is
to stay open until a pose arrives.  This file follows one robot through an arbitrary run of the
tracker and determines exactly which runs have that property.

The tracker serves several robots from four dictionaries, so the first step is to say once what
an event does to the four entries of one robot (`BotStep`, `step_botStep`).  What remains is an
induction over the events with two kinds of state: an *anchored* robot, whose reading opens the
gate and only grows, and a *forgotten* one, whose missing reading opens the gate as well.  The
way back from the second to the first starts from a zero reading, and that is the one way the
gate closes without a pose.
-/

namespace MiniatureWarehouse

namespace PoseGate

variable {α : Type*}

/-- The calls that change a `PoseGateTracker`. -/
inductive Event (α : Type*)
  | odom (bot : String) (x y yaw now : PyFloat α)
  | pose (bot : String)
  deriving DecidableEq

/-- A sample of the robot the tracker can use. -/
def Event.Usable (bot : String) : Event α → Prop
  | .odom b x y yaw now => b = bot ∧ (x.isFinite && y.isFinite && yaw.isFinite && now.isFinite)
  | .pose _ => False

/-- A sample of the robot the tracker drops, and its state with it. -/
def Event.Dropped (bot : String) : Event α → Prop
  | .odom b x y yaw now => b = bot ∧ ¬ (x.isFinite && y.isFinite && yaw.isFinite && now.isFinite)
  | .pose _ => False

instance (bot : String) : DecidablePred (Event.Usable (α := α) bot) := fun e => by
  cases e <;> unfold Event.Usable <;> infer_instance

instance (bot : String) : DecidablePred (Event.Dropped (α := α) bot) := fun e => by
  cases e <;> unfold Event.Dropped <;> infer_instance

section Step

variable [Field α] [LinearOrder α] [IsStrictOrderedRing α] (F : FloatFormat α) (L : MathLib α)

/-- The tracker as a machine; a call puts out whether it raised. -/
def machine : Machine (PoseGateTracker α) (Event α) (Except PyErr Unit) where
  step t
    | .odom bot x y yaw now => t.onOdom F L bot x y yaw now
    | .pose bot => (t.onPose bot, .ok ())

/-! ## What an event does to one robot -/

/-- The four entries a tracker holds for one robot. -/
structure BotEntry (α : Type*) where
  disp : Option (PyFloat α)
  dyaw : Option (PyFloat α)
  last : Option (PyFloat α × PyFloat α × PyFloat α)
  odomT : Option (PyFloat α)

/-- The entries of one robot. -/
def entry (t : PoseGateTracker α) (bot : String) : BotEntry α :=
  ⟨t.disp.get? bot, t.dyaw.get? bot, t.last.get? bot, t.odomT.get? bot⟩

/-- What an event can do to the entries of a robot.  The increments are path lengths and
magnitudes of turns, so they are never negative. -/
inductive BotStep (bot : String) : BotEntry α → Event α → BotEntry α → Prop
  /-- The event is about another robot. -/
  | other {e n} (hu : ¬ n.Usable bot) (hd : ¬ n.Dropped bot) (hp : n ≠ .pose bot) :
      BotStep bot e n e
  /-- A sample that cannot be used erases everything. -/
  | drop {e n} (hd : n.Dropped bot) : BotStep bot e n ⟨none, none, none, none⟩
  /-- The first usable sample becomes the origin. -/
  | anchor (disp dyaw odomT) {n} (hu : n.Usable bot) (q) {t : PyFloat α} (ht : t.isFinite) :
      BotStep bot ⟨disp, dyaw, none, odomT⟩ n
        ⟨some (disp.getD (.fin 0)), some (dyaw.getD (.fin 0)), some q, some t⟩
  /-- A later usable sample adds its increments. -/
  | accumulate (disp dyaw p odomT) {n} (hu : n.Usable bot) {inc turn : PyFloat α} (q t)
      (hinc : ¬ inc < .fin 0) (hturn : ¬ turn < .fin 0) :
      BotStep bot ⟨disp, dyaw, some p, odomT⟩ n
        ⟨some (F.add (disp.getD (.fin 0)) inc), some (F.add (dyaw.getD (.fin 0)) turn),
          some q, some t⟩
  /-- The turn overflowed and the wrapped angle raised: the path length is already added. -/
  | halfway (disp dyaw p odomT) {n} (hu : n.Usable bot) {inc : PyFloat α}
      (hinc : ¬ inc < .fin 0) :
      BotStep bot ⟨disp, dyaw, some p, odomT⟩ n
        ⟨some (F.add (disp.getD (.fin 0)) inc), dyaw, some p, odomT⟩
  /-- A pose restarts the accumulators. -/
  | pose {e} : BotStep bot e (.pose bot) { e with disp := some (.fin 0), dyaw := some (.fin 0) }

lemma step_botStep (t : PoseGateTracker α) (e : Event α) (bot : String) :
    BotStep F bot (entry t bot) e (entry ((machine F L).step t e).1 bot) := by
  cases e with
  | pose b =>
    by_cases hb : b = bot
    · subst hb
      simpa [machine, PoseGateTracker.onPose, entry] using BotStep.pose (F := F) (e := entry t b)
    · have : entry ((machine F L).step t (.pose b)).1 bot = entry t bot := by
        simp [machine, PoseGateTracker.onPose, entry, Dict.get?_set_of_ne, Ne.symm hb]
      rw [this]
      exact .other id id fun h => hb (Event.pose.inj h)
  | odom b x y yaw now =>
    by_cases hb : b = bot
    · subst hb
      by_cases hfin : (x.isFinite && y.isFinite && yaw.isFinite && now.isFinite) = true
      · have hu : (Event.odom b x y yaw now).Usable b := ⟨rfl, hfin⟩
        have hnow : now.isFinite = true := (Bool.and_eq_true_iff.mp hfin).2
        simp only [machine, PoseGateTracker.onOdom, hfin, if_true]
        cases hl : t.last.get? b with
        | none =>
          simpa [entry, hl, Dict.get?_setDefault, Dict.getD] using
            BotStep.anchor (F := F) (t.disp.get? b) (t.dyaw.get? b) (t.odomT.get? b) hu
              (x, y, yaw) hnow
        | some p =>
          obtain ⟨px, py, pyaw⟩ := p
          have hinc : ¬ distance F L px py x y < .fin 0 := L.hypot_nonneg _ _
          simp only
          cases hw : wrapAngle L (F.sub yaw pyaw) with
          | error err =>
            simpa [entry, hl, Dict.getD] using
              BotStep.halfway (F := F) (t.disp.get? b) (t.dyaw.get? b) (px, py, pyaw)
                (t.odomT.get? b) hu hinc
          | ok turn =>
            simpa [entry, hl, Dict.getD] using
              BotStep.accumulate (F := F) (t.disp.get? b) (t.dyaw.get? b) (px, py, pyaw)
                (t.odomT.get? b) hu (x, y, yaw) now hinc turn.not_abs_neg
      · have hd : (Event.odom b x y yaw now).Dropped b := ⟨rfl, hfin⟩
        have : entry ((machine F L).step t (.odom b x y yaw now)).1 b = ⟨none, none, none, none⟩ := by
          simp only [machine, PoseGateTracker.onOdom, hfin]
          simp [PoseGateTracker.forget, entry]
        rw [this]
        exact .drop hd
    · have : entry ((machine F L).step t (.odom b x y yaw now)).1 bot = entry t bot := by
        have hne : bot ≠ b := Ne.symm hb
        simp only [machine, PoseGateTracker.onOdom]
        split_ifs
        · split
          · simp [entry, Dict.get?_setDefault, Dict.get?_set_of_ne, hne]
          · split <;> simp [entry, Dict.get?_set_of_ne, hne]
        · simp [PoseGateTracker.forget, entry, Dict.get?_erase_of_ne, hne]
      rw [this]
      exact .other (fun h => hb h.1) (fun h => hb h.1) (by simp)

/-! ## Well-formed entries -/

/-- What holds of a robot's entries in every reachable tracker. -/
structure EntryWf (e : BotEntry α) : Prop where
  disp_rep : ∀ d, e.disp = some d → F.Rep d
  dyaw_rep : ∀ y, e.dyaw = some y → F.Rep y
  dyaw_nonneg : ∀ y, e.dyaw = some y → ¬ y < .fin 0
  last_of_odomT : e.odomT.isSome → e.last.isSome

variable {F}

lemma rep_getD_zero {o : Option (PyFloat α)} (h : ∀ d, o = some d → F.Rep d) :
    F.Rep (o.getD (.fin 0)) := by
  cases o with
  | none => exact F.rep_zero
  | some d => exact h d rfl

omit [IsStrictOrderedRing α] in
lemma not_getD_zero_neg {o : Option (PyFloat α)} (h : ∀ d, o = some d → ¬ d < .fin 0) :
    ¬ o.getD (.fin 0) < .fin 0 := by
  cases o with
  | none => simp
  | some d => exact h d rfl

lemma EntryWf.step {bot : String} {e e' : BotEntry α} {n : Event α} (h : EntryWf F e)
    (hstep : BotStep F bot e n e') : EntryWf F e' := by
  cases hstep with
  | other => exact h
  | drop => constructor <;> simp
  | anchor =>
    refine ⟨?_, ?_, ?_, fun _ => rfl⟩
    · rintro _ ⟨⟩; exact rep_getD_zero h.disp_rep
    · rintro _ ⟨⟩; exact rep_getD_zero h.dyaw_rep
    · rintro _ ⟨⟩; exact not_getD_zero_neg h.dyaw_nonneg
  | accumulate _ _ _ _ _ q t hinc hturn =>
    refine ⟨?_, ?_, ?_, fun _ => rfl⟩
    · rintro _ ⟨⟩; exact F.rep_add _ _
    · rintro _ ⟨⟩; exact F.rep_add _ _
    · rintro _ ⟨⟩; exact F.not_add_neg (not_getD_zero_neg h.dyaw_nonneg) hturn
  | halfway _ _ _ _ _ hinc =>
    refine ⟨?_, h.dyaw_rep, h.dyaw_nonneg, fun _ => rfl⟩
    rintro _ ⟨⟩; exact F.rep_add _ _
  | pose =>
    refine ⟨?_, ?_, ?_, h.last_of_odomT⟩
    · rintro _ ⟨⟩; exact F.rep_zero
    · rintro _ ⟨⟩; exact F.rep_zero
    · rintro _ ⟨⟩; simp

variable (F) in
lemma entryWf_run (es : List (Event α)) (bot : String) :
    EntryWf F (entry ((machine F L).run .empty es) bot) := by
  refine Machine.run_invariant (C := fun _ _ => True) (I := fun t => EntryWf F (entry t bot))
    (fun t e _ h => h.step (step_botStep F L t e bot)) ?_ ?_
  · exact ((machine F L).allSteps_iff _ _ _).mpr fun _ _ _ _ => trivial
  · constructor <;> simp [entry, PoseGateTracker.empty]

/-! ## Readings that open the gate -/

variable (motionEps angularEps : PyFloat α)

/-- A known reading opens the gate between these epsilons. -/
def OpenReading (d y : PyFloat α) : Prop :=
  motionEps.isFinite → angularEps.isFinite →
    FloatFormat.Past motionEps d ∨ FloatFormat.Past angularEps y.abs

/-- A state with the two gate inputs a snapshot returned. -/
def withReading (b : BotState α) (r : Option (PyFloat α) × Option (PyFloat α)) : BotState α :=
  { b with odomDispSincePose := r.1, odomDyawSincePose := r.2 }

variable {motionEps angularEps}

omit [IsStrictOrderedRing α] in
lemma poseGateOpen_reading (b : BotState α) (d y : PyFloat α) :
    poseGateOpen (withReading b (some d, some y)) (some motionEps) (some angularEps) = true ↔
      OpenReading motionEps angularEps d y := by
  rw [poseGateOpen_iff]
  simp [withReading, OpenReading]

omit [IsStrictOrderedRing α] in
lemma poseGateOpen_unknown (b : BotState α) :
    poseGateOpen (withReading b (none, none)) (some motionEps) (some angularEps) = true := by
  simp [poseGateOpen_iff, withReading]

/-- An open reading stays open when its path length grows. -/
lemma OpenReading.add_disp {d y inc : PyFloat α} (h : OpenReading motionEps angularEps d y)
    (hd : F.Rep d) (hinc : ¬ inc < .fin 0) :
    OpenReading motionEps angularEps (F.add d inc) y :=
  fun hm ha => (h hm ha).imp_left fun hp => hp.add F hd hinc

/-- An open reading stays open when its turn grows. -/
lemma OpenReading.add_dyaw {d y turn : PyFloat α} (h : OpenReading motionEps angularEps d y)
    (hy : F.Rep y) (hneg : ¬ y < .fin 0) (hturn : ¬ turn < .fin 0) :
    OpenReading motionEps angularEps d (F.add y turn) := by
  intro hm ha
  rw [PyFloat.abs_eq_of_not_neg (F.not_add_neg hneg hturn)]
  refine (h hm ha).imp_right fun hp => ?_
  rw [PyFloat.abs_eq_of_not_neg hneg] at hp
  exact hp.add F hy hturn

/-! ## Anchored and forgotten robots -/

variable (F) (motionEps angularEps) in
/-- The robot has an origin, and its reading opens the gate. -/
structure Anchored (e : BotEntry α) : Prop where
  wf : EntryWf F e
  last : e.last.isSome
  reading : ∃ d y, e.disp = some d ∧ e.dyaw = some y ∧ OpenReading motionEps angularEps d y

/-- Nothing is known about the robot. -/
def Forgotten (e : BotEntry α) : Prop := e = ⟨none, none, none, none⟩

/-- An anchored robot stays anchored until a sample is dropped or a pose arrives. -/
lemma Anchored.step {bot : String} {e e' : BotEntry α} {n : Event α}
    (h : Anchored F motionEps angularEps e) (hstep : BotStep F bot e n e')
    (hp : n ≠ .pose bot) (hd : ¬ n.Dropped bot) : Anchored F motionEps angularEps e' := by
  have hwf := h.wf.step hstep
  obtain ⟨wf, hlast, d, y, hdisp, hdyaw, hopen⟩ := h
  cases hstep with
  | other => exact ⟨wf, hlast, d, y, hdisp, hdyaw, hopen⟩
  | drop hd' => exact absurd hd' hd
  | anchor => simp at hlast
  | accumulate _ _ _ _ _ q t hinc hturn =>
    obtain rfl : _ = some d := hdisp
    obtain rfl : _ = some y := hdyaw
    refine ⟨hwf, rfl, _, _, rfl, rfl, ?_⟩
    have hy := wf.dyaw_rep y rfl
    exact (hopen.add_disp (wf.disp_rep d rfl) hinc).add_dyaw hy (wf.dyaw_nonneg y rfl) hturn
  | halfway _ _ _ _ _ hinc =>
    obtain rfl : _ = some d := hdisp
    exact ⟨hwf, rfl, _, y, rfl, hdyaw, hopen.add_disp (wf.disp_rep d rfl) hinc⟩
  | pose => exact absurd rfl hp

/-- A dropped sample forgets the robot. -/
lemma forgotten_of_dropped {bot : String} {e e' : BotEntry α} {n : Event α}
    (hstep : BotStep F bot e n e') (hd : n.Dropped bot) : Forgotten e' := by
  cases n with
  | pose => exact absurd hd id
  | odom =>
    cases hstep with
    | other _ hd' => exact absurd hd hd'
    | drop => rfl
    | anchor _ _ _ hu => exact absurd hu.2 hd.2
    | accumulate _ _ _ _ hu => exact absurd hu.2 hd.2
    | halfway _ _ _ _ hu => exact absurd hu.2 hd.2

/-- A forgotten robot stays forgotten until a usable sample or a pose arrives. -/
lemma Forgotten.step {bot : String} {e e' : BotEntry α} {n : Event α} (h : Forgotten e)
    (hstep : BotStep F bot e n e') (hp : n ≠ .pose bot) (hu : ¬ n.Usable bot) :
    Forgotten e' := by
  subst h
  cases hstep with
  | other => rfl
  | drop => rfl
  | anchor _ _ _ hu' => exact absurd hu' hu
  | pose => exact absurd rfl hp

/-- The first usable sample of a forgotten robot leaves a zero reading. -/
lemma Forgotten.anchor {bot : String} {e e' : BotEntry α} {n : Event α} (h : Forgotten e)
    (hstep : BotStep F bot e n e') (hu : n.Usable bot) :
    e'.last.isSome ∧ e'.disp = some (.fin 0) ∧ e'.dyaw = some (.fin 0) ∧
      ∃ t, e'.odomT = some t ∧ t.isFinite := by
  subst h
  cases hstep with
  | other hu' => exact absurd hu hu'
  | drop hd => cases n with
    | odom => exact absurd hu.2 hd.2
    | pose => exact absurd hd id
  | anchor _ _ _ _ q ht => exact ⟨rfl, rfl, rfl, _, rfl, ht⟩
  | pose => exact absurd hu id

/-! ## The gate over a run -/

variable (F) (motionEps angularEps) in
/-- The gate is open on every snapshot of the tracker, whenever it is taken. -/
def GateOpen (b : BotState α) (bot : String) (stale : PyFloat α) (t : PoseGateTracker α) : Prop :=
  ∀ now, poseGateOpen (withReading b (t.snapshot F bot now stale))
    (some motionEps) (some angularEps) = true

variable {b : BotState α} {bot : String} {stale : PyFloat α}

/-- A snapshot is the stored reading or nothing. -/
lemma snapshot_cases (t : PoseGateTracker α) (bot : String) (now stale : PyFloat α) :
    t.snapshot F bot now stale = (none, none) ∨
      t.snapshot F bot now stale = (t.disp.get? bot, t.dyaw.get? bot) ∧
        (t.odomT.get? bot).isSome ∧ stale.isFinite ∧ .fin 0 ≤ stale := by
  unfold PoseGateTracker.snapshot
  cases h : t.odomT.get? bot with
  | none => exact .inl rfl
  | some s =>
    simp only
    split_ifs with hfin hage
    · exact .inl rfl
    · exact .inr ⟨rfl, rfl, by simpa using hfin, PyFloat.le_trans hage.1 hage.2⟩
    · exact .inl rfl

lemma Anchored.gateOpen {t : PoseGateTracker α}
    (h : Anchored F motionEps angularEps (entry t bot)) :
    GateOpen F motionEps angularEps b bot stale t := by
  intro now
  obtain ⟨-, -, d, y, hd, hy, hopen⟩ := h
  rcases snapshot_cases (F := F) t bot now stale with hs | ⟨hs, -⟩
  · rw [hs]
    exact poseGateOpen_unknown b
  · rw [hs, show t.disp.get? bot = some d from hd, show t.dyaw.get? bot = some y from hy]
    exact (poseGateOpen_reading b d y).mpr hopen

lemma Forgotten.gateOpen {t : PoseGateTracker α} (h : Forgotten (entry t bot)) :
    GateOpen F motionEps angularEps b bot stale t := by
  intro now
  have ht : t.odomT.get? bot = none := congrArg BotEntry.odomT h
  rw [show t.snapshot F bot now stale = (none, none) by simp [PoseGateTracker.snapshot, ht]]
  exact poseGateOpen_unknown b

/-- A fresh zero reading closes the gate, unless the epsilons keep it open anyway. -/
lemma not_gateOpen_of_zero {t : PoseGateTracker α} {now : PyFloat α}
    (hd : t.disp.get? bot = some (.fin 0)) (hy : t.dyaw.get? bot = some (.fin 0))
    (ht : t.odomT.get? bot = some now) (hnow : now.isFinite) (hfin : stale.isFinite)
    (hstale : .fin 0 ≤ stale) (hz : ¬ OpenReading motionEps angularEps (.fin 0) (.fin 0)) :
    ¬ GateOpen F motionEps angularEps b bot stale t := by
  intro h
  obtain ⟨s, rfl⟩ := PyFloat.isFinite_iff.mp hnow
  have hs : t.snapshot F bot (.fin s) stale = (some (.fin 0), some (.fin 0)) := by
    simp [PoseGateTracker.snapshot, ht, hfin, F.sub_self_fin, hstale, hd, hy]
  have hopen := h (.fin s)
  rw [hs] at hopen
  exact hz ((poseGateOpen_reading b _ _).mp hopen)

section Run

variable (hz : ¬ OpenReading motionEps angularEps (.fin 0) (.fin 0))
  (hfin : stale.isFinite) (hstale : .fin 0 ≤ stale)

include hz hfin hstale in
/-- From a forgotten robot the gate stays open exactly while no usable sample arrives. -/
lemma forgotten_always_iff {t : PoseGateTracker α} {es : List (Event α)}
    (h : Forgotten (entry t bot)) (hp : ∀ e ∈ es, e ≠ .pose bot) :
    (machine F L).Always (GateOpen F motionEps angularEps b bot stale) t es ↔
      ∀ e ∈ es, ¬ e.Usable bot := by
  induction es generalizing t with
  | nil => simpa using h.gateOpen
  | cons e es ih =>
    obtain ⟨he, hes⟩ := List.forall_mem_cons.mp hp
    have hstep := step_botStep F L t e bot
    by_cases hu : e.Usable bot
    · obtain ⟨-, hd, hy, s, hs, hsfin⟩ := h.anchor hstep hu
      have hclosed := not_gateOpen_of_zero (F := F) (b := b) hd hy hs hsfin hfin hstale hz
      simp only [Machine.always_cons, List.forall_mem_cons]
      exact ⟨fun hall => absurd hall.2.head hclosed, fun hall => absurd hu hall.1⟩
    · simp only [Machine.always_cons, List.forall_mem_cons, hu, not_false_eq_true, true_and]
      rw [ih (h.step hstep he hu) hes]
      exact and_iff_right h.gateOpen

include hz hfin hstale in
/-- From an anchored robot the gate stays open exactly while no usable sample arrives after a
dropped one. -/
lemma anchored_always_iff {t : PoseGateTracker α} {es : List (Event α)}
    (h : Anchored F motionEps angularEps (entry t bot)) (hp : ∀ e ∈ es, e ≠ .pose bot) :
    (machine F L).Always (GateOpen F motionEps angularEps b bot stale) t es ↔
      es.Pairwise fun e e' => e.Dropped bot → ¬ e'.Usable bot := by
  induction es generalizing t with
  | nil => simpa using h.gateOpen
  | cons e es ih =>
    obtain ⟨he, hes⟩ := List.forall_mem_cons.mp hp
    have hstep := step_botStep F L t e bot
    rw [Machine.always_cons, List.pairwise_cons, and_iff_right h.gateOpen]
    by_cases hd : e.Dropped bot
    · have hf := forgotten_of_dropped hstep hd
      rw [forgotten_always_iff L hz hfin hstale hf hes]
      -- once a sample is dropped, the rest of the run holds no usable one at all
      refine ⟨fun hall => ⟨fun e' he' _ => hall e' he', ?_⟩, fun hall e' he' => hall.1 e' he' hd⟩
      exact List.pairwise_of_forall_mem_list fun _ _ e' he' _ => hall e' he'
    · rw [ih (h.step hstep he hd) hes]
      exact ⟨fun hall => ⟨fun _ _ hd' => absurd hd' hd, hall⟩, fun hall => hall.2⟩

end Run

/-- Where even a zero reading opens the gate, nothing closes it. -/
lemma always_of_zero_open (hz : OpenReading motionEps angularEps (.fin 0) (.fin 0))
    {t : PoseGateTracker α} {es : List (Event α)}
    (h : Anchored F motionEps angularEps (entry t bot) ∨ Forgotten (entry t bot))
    (hp : ∀ e ∈ es, e ≠ .pose bot) :
    (machine F L).Always (GateOpen F motionEps angularEps b bot stale) t es := by
  induction es generalizing t with
  | nil => exact h.elim (·.gateOpen) (·.gateOpen)
  | cons e es ih =>
    obtain ⟨he, hes⟩ := List.forall_mem_cons.mp hp
    have hstep := step_botStep F L t e bot
    refine ⟨h.elim (·.gateOpen) (·.gateOpen), ih ?_ hes⟩
    by_cases hd : e.Dropped bot
    · exact .inr (forgotten_of_dropped hstep hd)
    rcases h with h | h
    · exact .inl (h.step hstep he hd)
    by_cases hu : e.Usable bot
    · obtain ⟨hlast, hdisp, hdyaw, -⟩ := h.anchor hstep hu
      refine .inl ⟨EntryWf.step ?_ hstep, hlast, _, _, hdisp, hdyaw, hz⟩
      rw [show entry t bot = _ from h]
      constructor <;> simp
    · exact .inr (h.step hstep he hu)

variable (F) in
/-- **When the gate is a latch.**  After any run from an empty tracker in which a snapshot was
opened by an accumulated reading, and over any further samples without a pose, the gate stays
open on every snapshot if and only if either it is open on a zero reading already, or no usable
sample of the robot comes after a dropped one. -/
theorem gate_latches_iff (pre es : List (Event α)) (b : BotState α) (bot : String)
    (motionEps angularEps stale now d y : PyFloat α)
    (hsnap : ((machine F L).run .empty pre).snapshot F bot now stale = (some d, some y))
    (hopened : motionEps < d ∨ angularEps < y.abs) (hpose : ∀ e ∈ es, e ≠ .pose bot) :
    (machine F L).Always (fun t => ∀ now, poseGateOpen (withReading b (t.snapshot F bot now stale))
        (some motionEps) (some angularEps) = true) ((machine F L).run .empty pre) es ↔
      poseGateOpen (withReading b (some (.fin 0), some (.fin 0)))
          (some motionEps) (some angularEps) = true ∨
        es.Pairwise fun e e' => e.Dropped bot → ¬ e'.Usable bot := by
  have hwf := entryWf_run F L pre bot
  obtain ⟨hs, hodom, hfin, hstale⟩ :=
    (snapshot_cases (F := F) ((machine F L).run .empty pre) bot now stale).resolve_left
      (by simp [hsnap])
  obtain ⟨hd, hy⟩ := Prod.mk.inj (hsnap.symm.trans hs)
  have hanchored : Anchored F motionEps angularEps (entry ((machine F L).run .empty pre) bot) :=
    ⟨hwf, hwf.last_of_odomT hodom, d, y, hd.symm, hy.symm,
      fun _ _ => hopened.imp .inr .inr⟩
  rw [poseGateOpen_reading]
  by_cases hz : OpenReading motionEps angularEps (.fin 0) (.fin 0)
  · exact iff_of_true (always_of_zero_open L hz (.inl hanchored) hpose) (.inl hz)
  · rw [or_iff_right hz]
    exact anchored_always_iff L hz hfin hstale hanchored hpose

end Step

/-! ## A run that closes the gate -/

/-- A robot named for the examples below, with nothing known about it. -/
def exampleBot : BotState ℚ :=
  { bot := "bot1", x := none, y := none, batteryPct := none, blockedDuration := .fin 0 }

/-- One metre travelled since the last pose. -/
def travelled : List (Event ℚ) :=
  [.odom "bot1" (.fin 0) (.fin 0) (.fin 0) (.fin 0), .odom "bot1" (.fin 1) (.fin 0) (.fin 0) (.fin 1)]

/-- An unusable sample, and then the same usable one again. -/
def glitched : List (Event ℚ) :=
  [.odom "bot1" .nan (.fin 0) (.fin 0) (.fin 2), .odom "bot1" (.fin 1) (.fin 0) (.fin 0) (.fin 3)]

/-- **The gate releases itself without a pose.**  One metre of travel opens it; after a single
unusable sample the next usable one restarts the path length at zero, and the gate is closed. -/
theorem gate_released_without_pose :
    let M := machine (FloatFormat.exact ℚ) MathLib.rational
    let opened := (M.run .empty travelled).snapshot (.exact ℚ) "bot1" (.fin 1) (.fin 1)
    let closed :=
      (M.run (M.run .empty travelled) glitched).snapshot (.exact ℚ) "bot1" (.fin 3) (.fin 1)
    opened = (some (.fin 1), some (.fin 0)) ∧
      poseGateOpen (withReading exampleBot opened) (some (.fin (1 / 4))) (some (.fin (1 / 5))) =
        true ∧
      (∀ e ∈ glitched, e ≠ .pose "bot1") ∧
      poseGateOpen (withReading exampleBot closed) (some (.fin (1 / 4))) (some (.fin (1 / 5))) =
        false := by
  decide +kernel

/-- The characterisation at a run without an unusable sample: the gate stays open. -/
theorem gate_latches_iff_travelled :
    (machine (FloatFormat.exact ℚ) MathLib.rational).Always
        (fun t => ∀ now, poseGateOpen
          (withReading exampleBot (t.snapshot (.exact ℚ) "bot1" now (.fin 1)))
          (some (.fin (1 / 4))) (some (.fin (1 / 5))) = true)
        ((machine (FloatFormat.exact ℚ) MathLib.rational).run .empty travelled)
        [.odom "bot1" (.fin 1) (.fin 0) (.fin 0) (.fin 2)] := by
  refine (gate_latches_iff (.exact ℚ) MathLib.rational travelled _ exampleBot "bot1" (.fin (1 / 4))
    (.fin (1 / 5)) (.fin 1) (.fin 1) (.fin 1) (.fin 0) ?_ ?_ ?_).mpr (.inr ?_)
  · decide +kernel
  · decide +kernel
  · simp
  · simp

end PoseGate

end MiniatureWarehouse
