import MiniatureWarehouse.Framework.RealMath
import MiniatureWarehouse.M1Driver.WheelOdometry
import Mathlib.Data.List.Chain

/-!
# Wheel odometry conserves travel

The counters the firmware reports are the true counts modulo 2^32.  Where no wheel turned by more
than half of that between two usable reports, each folded difference is the true one, whatever was
dropped between them (`wrappedDelta_eq`).  Over exact arithmetic the forward increments of a run
then add up to the distance that the wheels covered between its first and its last usable report,
on average: nothing that a dropped report carried is lost, and nothing is counted twice.

A run is a list of sightings: reports, each with the true counts that it stands for.
-/

namespace MiniatureWarehouse

namespace Odometry

/-! ## Counters seen modulo their span -/

/-- **A folded difference is the true one**, if that fits the counter. -/
lemma wrappedDelta_eq {current previous c p : ℤ} (hc : current % 2 ^ 32 = c % 2 ^ 32)
    (hp : previous % 2 ^ 32 = p % 2 ^ 32) (hlow : -2 ^ 31 ≤ c - p) (hhigh : c - p < 2 ^ 31) :
    wrappedDelta current previous = c - p := by
  unfold wrappedDelta int32Span int32HalfSpan
  dsimp only
  split_ifs with hfold <;> omega

/-- The counts of a report are the true ones, seen modulo the span of the counters. -/
structure Wheels.Shows (counts truth : Wheels ℤ) : Prop where
  m1 : counts.m1 % 2 ^ 32 = truth.m1 % 2 ^ 32
  m2 : counts.m2 % 2 ^ 32 = truth.m2 % 2 ^ 32
  m3 : counts.m3 % 2 ^ 32 = truth.m3 % 2 ^ 32
  m4 : counts.m4 % 2 ^ 32 = truth.m4 % 2 ^ 32

/-- No wheel turns further than a counter can tell. -/
structure Wheels.Near (a b : Wheels ℤ) : Prop where
  m1 : -2 ^ 31 ≤ b.m1 - a.m1 ∧ b.m1 - a.m1 < 2 ^ 31
  m2 : -2 ^ 31 ≤ b.m2 - a.m2 ∧ b.m2 - a.m2 < 2 ^ 31
  m3 : -2 ^ 31 ≤ b.m3 - a.m3 ∧ b.m3 - a.m3 < 2 ^ 31
  m4 : -2 ^ 31 ≤ b.m4 - a.m4 ∧ b.m4 - a.m4 < 2 ^ 31

/-- A report, and the true counts at that time. -/
structure Sighting where
  report : Report ℝ
  truth : Wheels ℤ

/-- What the report reads, if it reads anything, are the true counts. -/
def Sighting.Faithful (s : Sighting) : Prop :=
  ∀ counts, readCounts s.report.counts = .ok counts → counts.Shows s.truth

/-- The usable sightings behind a report at the time `last?`: they read, and time advances. -/
noncomputable def usable : Option (PyFloat ℝ) → List Sighting → List Sighting
  | _, [] => []
  | last?, s :: ss =>
    match s.report.reading (.exact ℝ) with
    | some (_, now) =>
      if ∀ last ∈ last?, last < now then s :: usable (some now) ss else usable last? ss
    | none => usable last? ss

/-! ## What the wheels covered -/

/-- The mean of the signed changes of the wheels. -/
noncomputable def Geometry.meanChange (g : Geometry ℝ) (a b : Wheels ℤ) : ℝ :=
  (g.signs.m1 * (b.m1 - a.m1) + g.signs.m2 * (b.m2 - a.m2) + g.signs.m3 * (b.m3 - a.m3) +
    g.signs.m4 * (b.m4 - a.m4)) / 4

lemma Geometry.meanChange_self (g : Geometry ℝ) (a : Wheels ℤ) : g.meanChange a a = 0 := by
  unfold meanChange
  ring

/-- Changes add up. -/
lemma Geometry.meanChange_add (g : Geometry ℝ) (a b c : Wheels ℤ) :
    g.meanChange a b + g.meanChange b c = g.meanChange a c := by
  unfold meanChange
  ring

/-- The mean change over a list of sightings. -/
noncomputable def Geometry.travel (g : Geometry ℝ) : List Sighting → ℝ
  | [] => 0
  | first :: rest => g.meanChange first.truth ((first :: rest).getLast (List.cons_ne_nil _ _)).truth

/-- Travel adds up along the sightings. -/
lemma Geometry.travel_cons (g : Geometry ℝ) (a b : Sighting) (rest : List Sighting) :
    g.travel (a :: b :: rest) = g.meanChange a.truth b.truth + g.travel (b :: rest) := by
  rw [travel, travel, List.getLast_cons (List.cons_ne_nil b rest), g.meanChange_add]

/-- Metres per count. -/
noncomputable def Geometry.metres (g : Geometry ℝ) : ℝ :=
  Real.pi * g.wheelDiameterM / g.countsPerRev

/-! ## One step over exact arithmetic -/

lemma exact_holdsTurns : HoldsTurns (.exact ℝ) Real.pi := ⟨Real.pi_pos, rfl, rfl, rfl⟩

@[simp] lemma exact_add_fin (x y : ℝ) : (FloatFormat.exact ℝ).add (.fin x) (.fin y) = .fin (x + y) :=
  rfl

@[simp] lemma exact_sub_fin (x y : ℝ) : (FloatFormat.exact ℝ).sub (.fin x) (.fin y) = .fin (x - y) :=
  congrArg PyFloat.fin (sub_eq_add_neg x y).symm

/-- A heading that is a number is wrapped to one. -/
lemma exact_wrapYaw (z : ℝ) :
    ∃ y, wrapYaw (.exact ℝ) Real.pi (.fin z) = .fin y ∧ |y| ≤ Real.pi := by
  rcases exact_holdsTurns.wrapYaw (.fin z) with hnan | hfin
  · unfold wrapYaw at hnan
    split_ifs at hnan
    cases hnan
  · exact hfin

/-- The states over exact arithmetic: the pose is a number, with the heading in range. -/
structure Exact (o : WheelOdometry ℝ) : Prop where
  x : ∃ x, o.x = .fin x
  y : ∃ y, o.y = .fin y
  yaw : ∃ yaw, o.yaw = .fin yaw ∧ |yaw| ≤ Real.pi

/-- The distances of the wheels, exactly. -/
lemma exact_distances (g : Geometry ℝ) {current previous c p : Wheels ℤ} (hc : current.Shows c)
    (hp : previous.Shows p) (hnear : p.Near c) :
    g.distances (.exact ℝ) Real.pi current previous = .ok
      ⟨.fin ((g.signs.m1 : ℤ) * (c.m1 - p.m1) * g.metres),
        .fin ((g.signs.m2 : ℤ) * (c.m2 - p.m2) * g.metres),
        .fin ((g.signs.m3 : ℤ) * (c.m3 - p.m3) * g.metres),
        .fin ((g.signs.m4 : ℤ) * (c.m4 - p.m4) * g.metres)⟩ := by
  have hwheel : ∀ (sign : ℤˣ) (current previous c p : ℤ), current % 2 ^ 32 = c % 2 ^ 32 →
      previous % 2 ^ 32 = p % 2 ^ 32 → -2 ^ 31 ≤ c - p ∧ c - p < 2 ^ 31 →
      g.distance (.exact ℝ) Real.pi sign current previous =
        .ok (.fin ((sign : ℤ) * (c - p) * g.metres)) := by
    intro sign current previous c p hc hp hnear
    have hcast : (((sign : ℤ) * (c - p) : ℤ) : ℝ) = (sign : ℤ) * ((c : ℝ) - p) := by
      rw [Int.cast_mul, Int.cast_sub]
    unfold Geometry.distance
    rw [wrappedDelta_eq hc hp hnear.1 hnear.2, ← hcast]
    rfl
  unfold Geometry.distances
  rw [hwheel _ _ _ _ _ hc.m1 hp.m1 hnear.m1, hwheel _ _ _ _ _ hc.m2 hp.m2 hnear.m2,
    hwheel _ _ _ _ _ hc.m3 hp.m3 hnear.m3, hwheel _ _ _ _ _ hc.m4 hp.m4 hnear.m4]
  rfl

/-- **One usable report** covers the distance that the wheels turned since the last one. -/
lemma exact_integrate (g : Geometry ℝ) {o : WheelOdometry ℝ} (ho : Exact o)
    {current previous c p : Wheels ℤ} (hc : current.Shows c) (hp : previous.Shows p)
    (hnear : p.Near c) {now last : ℝ} (hlt : last < now) :
    ∃ o' sample, o.integrate (.exact ℝ) .real Real.pi g current previous (.fin now) (.fin last) =
        .ok (o', some sample) ∧ Exact o' ∧ o'.prevCounts = some current ∧
      o'.prevT = some (.fin now) ∧ sample.ds = .fin (g.metres * g.meanChange p c) ∧
      sample.yaw = o'.yaw := by
  obtain ⟨⟨x, hx⟩, ⟨y, hy⟩, ⟨yaw, hyaw, -⟩⟩ := ho
  have hdt : ¬ (FloatFormat.exact ℝ).sub (.fin now) (.fin last) ≤ .fin 0 := by
    rw [exact_sub_fin, PyFloat.fin_le_fin, sub_nonpos]
    exact not_le.mpr hlt
  have hdistances := exact_distances g hc hp hnear
  generalize hd : (⟨_, _, _, _⟩ : Wheels (PyFloat ℝ)) = d at hdistances
  have hds : d.ds (.exact ℝ) = .fin (g.metres * g.meanChange p c) := by
    rw [← hd]
    unfold Wheels.ds Wheels.left Wheels.right Geometry.meanChange
    simp only [exact_add_fin, exact_div_fin]
    congr 1
    ring
  obtain ⟨dyaw, hdyaw⟩ : ∃ dyaw, d.dyaw (.exact ℝ) g = .fin dyaw := by
    rw [← hd]
    exact ⟨_, rfl⟩
  obtain ⟨yaw', hwrapped, hrange⟩ := exact_wrapYaw (yaw + dyaw)
  unfold WheelOdometry.integrate
  dsimp only
  rw [if_neg hdt, hdistances]
  dsimp only [Except.bind]
  rw [hds, hdyaw, hx, hy, hyaw, exact_add_fin, hwrapped]
  refine ⟨_, _, rfl, ⟨⟨_, rfl⟩, ⟨_, rfl⟩, yaw', rfl, hrange⟩, rfl, rfl, rfl, rfl⟩

/-! ## Runs -/

/-- The sample that a call returned. -/
def sample? : Except PyErr (Option (OdomSample ℝ)) → Option (OdomSample ℝ)
  | .ok sample? => sample?
  | .error _ => none

/-- The forward increments, added up. -/
noncomputable def forward (samples : List (OdomSample ℝ)) : PyFloat ℝ :=
  samples.foldr (fun s sum => (FloatFormat.exact ℝ).add s.ds sum) (.fin 0)

/-- The odometry of a cart, over exact arithmetic. -/
noncomputable def Geometry.machine (g : Geometry ℝ) :
    Machine (WheelOdometry ℝ) (Report ℝ) (Except PyErr (Option (OdomSample ℝ))) :=
  odometry (.exact ℝ) .real Real.pi g

/-- What is known of a run: the increments add up to a distance, every heading that is reported is
in range, and so is the one the run ends with. -/
structure Conserves (g : Geometry ℝ) (o : WheelOdometry ℝ) (reports : List (Report ℝ))
    (distance : ℝ) : Prop where
  forward : forward ((g.machine.outputs o reports).filterMap sample?) = .fin distance
  headings : ∀ s ∈ (g.machine.outputs o reports).filterMap sample?,
    ∃ yaw, s.yaw = .fin yaw ∧ |yaw| ≤ Real.pi
  pose : Exact (g.machine.run o reports)

lemma Conserves.nil (g : Geometry ℝ) {o : WheelOdometry ℝ} (ho : Exact o) :
    Conserves g o [] 0 :=
  ⟨rfl, fun _ h => absurd h List.not_mem_nil, ho⟩

/-- A call that returns no sample adds nothing. -/
lemma Conserves.skip {g : Geometry ℝ} {o o' : WheelOdometry ℝ} {r : Report ℝ}
    {reports : List (Report ℝ)} {distance : ℝ} (hstate : (g.machine.step o r).1 = o')
    (hsample : sample? (g.machine.step o r).2 = none) (h : Conserves g o' reports distance) :
    Conserves g o (r :: reports) distance := by
  have houtputs : (g.machine.outputs o (r :: reports)).filterMap sample? =
      (g.machine.outputs o' reports).filterMap sample? := by
    rw [Machine.outputs_cons, List.filterMap_cons_none hsample, hstate]
  refine ⟨?_, ?_, ?_⟩
  · rw [houtputs]
    exact h.forward
  · rw [houtputs]
    exact h.headings
  · rw [Machine.run_cons, hstate]
    exact h.pose

/-- A call that returns a sample adds its increment. -/
lemma Conserves.add {g : Geometry ℝ} {o o' : WheelOdometry ℝ} {r : Report ℝ}
    {reports : List (Report ℝ)} {s : OdomSample ℝ} {step distance : ℝ}
    (hstate : (g.machine.step o r).1 = o')
    (hsample : sample? (g.machine.step o r).2 = some s) (hds : s.ds = .fin step)
    (hyaw : ∃ yaw, s.yaw = .fin yaw ∧ |yaw| ≤ Real.pi) (h : Conserves g o' reports distance) :
    Conserves g o (r :: reports) (step + distance) := by
  have houtputs : (g.machine.outputs o (r :: reports)).filterMap sample? =
      s :: (g.machine.outputs o' reports).filterMap sample? := by
    rw [Machine.outputs_cons, List.filterMap_cons_some hsample, hstate]
  refine ⟨?_, ?_, ?_⟩
  · rw [houtputs]
    unfold Odometry.forward
    rw [List.foldr_cons, hds]
    exact congrArg ((FloatFormat.exact ℝ).add (.fin step)) h.forward
  · rw [houtputs]
    exact List.forall_mem_cons.mpr ⟨hyaw, h.headings⟩
  · rw [Machine.run_cons, hstate]
    exact h.pose

/-! ### What a report does -/

lemma usableTime_finite {t : PyVal ℝ} {now : PyFloat ℝ}
    (h : usableTime (.exact ℝ) t = .ok (some now)) : ∃ x, now = .fin x := by
  cases t with
  | int i =>
    rw [usableTime, PyVal.toFloat] at h
    exact ⟨i, (Option.some.inj (Except.ok.inj h)).symm⟩
  | float x =>
    cases x with
    | fin x => exact ⟨x, (Option.some.inj (Except.ok.inj h)).symm⟩
    | _ => cases h
  | _ => cases h

/-- What does not read is dropped, or raises; either way nothing changes. -/
lemma step_of_unreadable (g : Geometry ℝ) (o : WheelOdometry ℝ) {r : Report ℝ}
    (h : r.reading (.exact ℝ) = none) :
    (g.machine.step o r).1 = o ∧ sample? (g.machine.step o r).2 = none := by
  have hupdate : (∃ e, o.update (.exact ℝ) .real Real.pi g r = .error e) ∨
      o.update (.exact ℝ) .real Real.pi g r = .ok (o, none) := by
    unfold Report.reading at h
    unfold WheelOdometry.update
    cases htime : usableTime (.exact ℝ) r.time with
    | error e => exact .inl ⟨e, rfl⟩
    | ok now? =>
      rw [htime] at h
      cases now? with
      | none => exact .inr rfl
      | some now =>
        dsimp only [Except.bind]
        cases hcounts : readCounts r.counts with
        | ok current =>
          rw [hcounts] at h
          cases h
        | error e =>
          rcases readCounts_error hcounts with rfl | rfl
          · exact .inr rfl
          · exact .inl ⟨_, rfl⟩
  unfold Geometry.machine odometry
  dsimp only
  rcases hupdate with ⟨e, he⟩ | hok
  · rw [he]
    exact ⟨rfl, rfl⟩
  · rw [hok]
    exact ⟨rfl, rfl⟩

/-- What reads has its time and its counts. -/
lemma reading_parts {r : Report ℝ} {current : Wheels ℤ} {now : PyFloat ℝ}
    (h : r.reading (.exact ℝ) = some (current, now)) :
    usableTime (.exact ℝ) r.time = .ok (some now) ∧ readCounts r.counts = .ok current := by
  unfold Report.reading at h
  split at h
  · rename_i now' current' htime hcounts
    obtain ⟨rfl, rfl⟩ := Prod.mk.inj (Option.some.inj h)
    exact ⟨htime, hcounts⟩
  · cases h

/-- What reads is integrated, or becomes the first reference. -/
lemma update_of_reading (g : Geometry ℝ) (o : WheelOdometry ℝ) {r : Report ℝ}
    {current : Wheels ℤ} {now : PyFloat ℝ} (h : r.reading (.exact ℝ) = some (current, now)) :
    (∀ previous prevT, o.prevCounts = some previous → o.prevT = some prevT →
      o.update (.exact ℝ) .real Real.pi g r =
        o.integrate (.exact ℝ) .real Real.pi g current previous now prevT) ∧
    (o.prevCounts = none → o.update (.exact ℝ) .real Real.pi g r =
      .ok ({ o with prevCounts := some current, prevT := some now }, none)) := by
  obtain ⟨htime, hcounts⟩ := reading_parts h
  unfold WheelOdometry.update
  rw [htime]
  dsimp only [Except.bind]
  rw [hcounts]
  dsimp only
  constructor
  · intro previous prevT hprevious hprevT
    rw [hprevious, hprevT]
  · intro hnone
    rw [hnone]

/-! ### Conservation -/

/-- From a reference on, the increments add up to the travel since then. -/
lemma conserves_from (g : Geometry ℝ) {ss : List Sighting} (hfaithful : ∀ s ∈ ss, s.Faithful)
    {o : WheelOdometry ℝ} (ho : Exact o) {a : Sighting} {counts : Wheels ℤ} {last : ℝ}
    (hcounts : o.prevCounts = some counts) (hshows : counts.Shows a.truth)
    (hlast : o.prevT = some (.fin last))
    (hnear : (a :: usable (some (.fin last)) ss).IsChain fun a b => a.truth.Near b.truth) :
    Conserves g o (ss.map Sighting.report)
      (g.metres * g.travel (a :: usable (some (.fin last)) ss)) := by
  induction ss generalizing o a counts last with
  | nil =>
    have hzero : g.metres * g.travel (a :: usable (some (.fin last)) []) = 0 := by
      show g.metres * g.meanChange a.truth a.truth = 0
      rw [g.meanChange_self, mul_zero]
    rw [hzero]
    exact .nil g ho
  | cons s ss ih =>
    obtain ⟨hs, hss⟩ := List.forall_mem_cons.mp hfaithful
    cases hreading : s.report.reading (.exact ℝ) with
    | none =>
      have husable : usable (some (.fin last)) (s :: ss) = usable (some (.fin last)) ss := by
        rw [usable, hreading]
      rw [husable] at hnear ⊢
      obtain ⟨hstate, hsample⟩ := step_of_unreadable g o hreading
      exact .skip hstate hsample (ih hss ho hcounts hshows hlast hnear)
    | some x =>
      obtain ⟨current, now⟩ := x
      obtain ⟨htime, hread⟩ := reading_parts hreading
      obtain ⟨now, rfl⟩ := usableTime_finite htime
      have hupdate := (update_of_reading g o hreading).1 counts (.fin last) hcounts hlast
      by_cases hlt : last < now
      · have husable : usable (some (.fin last)) (s :: ss) = s :: usable (some (.fin now)) ss := by
          rw [usable, hreading]
          exact if_pos fun l hl => by rwa [← Option.some.inj hl]
        rw [husable] at hnear ⊢
        obtain ⟨hstep, hrest⟩ := List.isChain_cons_cons.mp hnear
        have hcurrent : current.Shows s.truth := hs current hread
        obtain ⟨o', sample, hintegrate, ho', hprev', hT', hds, hyaw⟩ :=
          exact_integrate g ho hcurrent hshows hstep hlt
        have hmachine : g.machine.step o s.report = (o', .ok (some sample)) := by
          unfold Geometry.machine odometry
          dsimp only
          rw [hupdate, hintegrate]
        rw [g.travel_cons, mul_add]
        refine .add (by rw [hmachine]) (by rw [hmachine]; rfl) hds ?_
          (ih hss ho' hprev' hcurrent hT' hrest)
        rw [hyaw]
        exact ho'.yaw
      · -- a duplicate or a late report
        have husable : usable (some (.fin last)) (s :: ss) = usable (some (.fin last)) ss := by
          rw [usable, hreading]
          exact if_neg fun h => hlt (h (.fin last) rfl)
        rw [husable] at hnear ⊢
        have hmachine : g.machine.step o s.report = (o, .ok none) := by
          have hdt : (FloatFormat.exact ℝ).sub (.fin now) (.fin last) ≤ .fin 0 := by
            rw [exact_sub_fin, PyFloat.fin_le_fin, sub_nonpos]
            exact not_lt.mp hlt
          unfold Geometry.machine odometry
          dsimp only
          rw [hupdate]
          unfold WheelOdometry.integrate
          dsimp only
          rw [if_pos hdt]
        exact .skip (by rw [hmachine]) (by rw [hmachine]; rfl)
          (ih hss ho hcounts hshows hlast hnear)

/-- Before the first reference, nothing is integrated. -/
lemma conserves_before (g : Geometry ℝ) {ss : List Sighting}
    (hfaithful : ∀ s ∈ ss, s.Faithful) {o : WheelOdometry ℝ} (ho : Exact o)
    (hcounts : o.prevCounts = none)
    (hnear : (usable none ss).IsChain fun a b => a.truth.Near b.truth) :
    Conserves g o (ss.map Sighting.report) (g.metres * g.travel (usable none ss)) := by
  induction ss with
  | nil =>
    have hzero : g.metres * g.travel (usable none []) = 0 := mul_zero _
    rw [hzero]
    exact .nil g ho
  | cons s ss ih =>
    obtain ⟨hs, hss⟩ := List.forall_mem_cons.mp hfaithful
    cases hreading : s.report.reading (.exact ℝ) with
    | none =>
      have husable : usable none (s :: ss) = usable none ss := by
        rw [usable, hreading]
      rw [husable] at hnear ⊢
      obtain ⟨hstate, hsample⟩ := step_of_unreadable g o hreading
      exact .skip hstate hsample (ih hss hnear)
    | some x =>
      obtain ⟨current, now⟩ := x
      obtain ⟨htime, hread⟩ := reading_parts hreading
      obtain ⟨now, rfl⟩ := usableTime_finite htime
      have husable : usable none (s :: ss) = s :: usable (some (.fin now)) ss := by
        rw [usable, hreading]
        exact if_pos fun l hl => by cases hl
      rw [husable] at hnear ⊢
      have hmachine : g.machine.step o s.report =
          ({ o with prevCounts := some current, prevT := some (.fin now) }, .ok none) := by
        unfold Geometry.machine odometry
        dsimp only
        rw [(update_of_reading g o hreading).2 hcounts]
      refine .skip (by rw [hmachine]) (by rw [hmachine]; rfl) ?_
      have hfirst : Exact { o with prevCounts := some current, prevT := some (.fin now) } :=
        ⟨ho.x, ho.y, ho.yaw⟩
      exact conserves_from g hss hfirst rfl (hs current hread) rfl hnear

/-- **Wheel odometry conserves travel.**  Over exact arithmetic, for every run of faithful reports
among which no wheel turns further between two usable ones than a counter can tell: the forward
increments add up to metres per count times the mean of the signed true changes between the first
and the last usable report, and every heading that is reported, like the one the run ends with, is
within half a turn. -/
theorem travel_conserved (g : Geometry ℝ) {ss : List Sighting}
    (hfaithful : ∀ s ∈ ss, s.Faithful)
    (hnear : (usable none ss).IsChain fun a b => a.truth.Near b.truth) :
    Conserves g .init (ss.map Sighting.report) (g.metres * g.travel (usable none ss)) := by
  have hinit : Exact (WheelOdometry.init : WheelOdometry ℝ) := by
    refine ⟨⟨0, rfl⟩, ⟨0, rfl⟩, 0, rfl, ?_⟩
    rw [abs_zero]
    exact Real.pi_pos.le
  exact conserves_before g hfaithful hinit rfl hnear

/-! ### A wheel that passes the end of its counter -/

/-- A sighting with the same count at every wheel. -/
def evenSighting (shown truth : ℤ) (t : ℝ) : Sighting where
  report := ⟨[.int shown, .int shown, .int shown, .int shown], .float (.fin t)⟩
  truth := ⟨truth, truth, truth, truth⟩

lemma evenSighting_faithful {shown truth : ℤ} (t : ℝ) (h : shown % 2 ^ 32 = truth % 2 ^ 32) :
    (evenSighting shown truth t).Faithful := by
  intro counts hcounts
  obtain rfl : (⟨shown, shown, shown, shown⟩ : Wheels ℤ) = counts := Except.ok.inj hcounts
  exact ⟨h, h, h, h⟩

lemma evenSighting_reading (shown truth : ℤ) (t : ℝ) :
    (evenSighting shown truth t).report.reading (.exact ℝ) =
      some (⟨shown, shown, shown, shown⟩, .fin t) := rfl

/-- Two seconds of driving across the end of the counters, with a late report in between. -/
def around : List Sighting :=
  [evenSighting (2 ^ 31 - 5) (2 ^ 31 - 5) 0, evenSighting (2 ^ 31 - 1) (2 ^ 31 - 1) (-1),
    evenSighting (5 - 2 ^ 31) (2 ^ 31 + 5) 1]

lemma around_usable : usable none around =
    [evenSighting (2 ^ 31 - 5) (2 ^ 31 - 5) 0, evenSighting (5 - 2 ^ 31) (2 ^ 31 + 5) 1] := by
  have hlate : ¬ ∀ last ∈ some (PyFloat.fin (0 : ℝ)), last < .fin (-1) := by
    intro h
    have hlt : (0 : ℝ) < -1 := h (.fin 0) rfl
    linarith
  have hnext : ∀ last ∈ some (PyFloat.fin (0 : ℝ)), last < .fin 1 := by
    intro last hlast
    rw [← Option.some.inj hlast]
    exact (one_pos : (0 : ℝ) < 1)
  have hfirst : ∀ last ∈ (none : Option (PyFloat ℝ)), last < .fin 0 := by
    intro last hlast
    cases hlast
  unfold around
  rw [usable, evenSighting_reading]
  dsimp only
  rw [if_pos hfirst, usable, evenSighting_reading]
  dsimp only
  rw [if_neg hlate, usable, evenSighting_reading]
  dsimp only
  rw [if_pos hnext]
  rfl

lemma real_one_pos : (0 : ℝ) < 1 := one_pos

/-- A cart of unit measures, over the reals. -/
noncomputable def realCart : Geometry ℝ :=
  ⟨1, 1, 1, real_one_pos, real_one_pos, real_one_pos, ⟨1, 1, 1, 1⟩⟩

theorem travel_conserved_around :
    Conserves realCart .init (around.map Sighting.report)
      (realCart.metres * realCart.travel (usable none around)) := by
  refine travel_conserved realCart ?_ ?_
  · intro s hs
    simp only [around, List.mem_cons, List.not_mem_nil, or_false] at hs
    rcases hs with rfl | rfl | rfl
    · exact evenSighting_faithful _ (by decide)
    · exact evenSighting_faithful _ (by decide)
    · exact evenSighting_faithful _ (by decide)
  · have hstep : (-2 ^ 31 : ℤ) ≤ 2 ^ 31 + 5 - (2 ^ 31 - 5) ∧
        (2 ^ 31 + 5 - (2 ^ 31 - 5) : ℤ) < 2 ^ 31 := by decide
    rw [around_usable]
    exact List.isChain_cons_cons.mpr ⟨⟨hstep, hstep, hstep, hstep⟩, List.isChain_singleton _⟩

end Odometry

end MiniatureWarehouse
