import MiniatureWarehouse.EvalSdk.StreamingStats
import MiniatureWarehouse.Interfaces.Safety

/-!
# The two scopes of the motion statistics

Every odometry sample of a robot goes into a ring of the recent ones and, as a speed, into the
totals of the whole run.  The totals decide what a sample is: the ring takes what they accepted and
nothing else, so the two scopes are about the same samples.

The totals see a speed where the ring keeps the signed velocity with the position, and
`map_advancing` carries the accepted samples from one view to the other.
-/

namespace MiniatureWarehouse

namespace Orchestrator

open EvalSdk

/-- `MotionSample`. -/
structure MotionSample (α : Type*) where
  t : PyFloat α
  x : PyFloat α
  y : PyFloat α
  v : PyFloat α
  deriving DecidableEq, Repr

/-- An odometry message: the robot, and its sample. -/
structure Odom (α : Type*) where
  robot : String
  sample : MotionSample α

/-- The last elements of a list, at most so many. -/
def lastN {β : Type*} (n : ℕ) (xs : List β) : List β := xs.drop (xs.length - n)

/-- `deque.append` under a bound on the length. -/
def pushBounded {β : Type*} (n : ℕ) (xs : List β) (x : β) : List β := lastN n (xs ++ [x])

/-- What has left the ring does not come back. -/
lemma pushBounded_lastN {β : Type*} (n : ℕ) (xs : List β) (x : β) :
    pushBounded n (lastN n xs) x = lastN n (xs ++ [x]) := by
  unfold pushBounded lastN
  by_cases hlong : xs.length ≤ n
  · have hnone : xs.length - n = 0 := by omega
    rw [hnone, List.drop_zero]
  · have hdrop : xs.length - n ≤ xs.length := Nat.sub_le _ _
    have hlength : (List.drop (xs.length - n) xs ++ [x]).length - n = 1 := by
      rw [List.length_append, List.length_drop, List.length_singleton]
      omega
    have htotal : (xs ++ [x]).length - n = xs.length - n + 1 := by
      rw [List.length_append, List.length_singleton]
      omega
    rw [hlength, htotal, ← List.drop_append_of_le_length hdrop, List.drop_drop]

/-- `MotionAccumulator`: the ring of each robot, oldest sample first, and the totals of the run. -/
structure MotionAccumulator (α : Type*) where
  maxSamples : ℕ
  maxSamples_pos : 0 < maxSamples
  series : Dict String (List (MotionSample α))
  run : TimeSeriesAccumulator α

variable {α : Type*} [Field α] [LinearOrder α] [IsStrictOrderedRing α] (F : FloatFormat α)

namespace MotionAccumulator

/-- An accumulator as it is built, with the threshold of the format. -/
def init (maxSamples : ℕ) (hpos : 0 < maxSamples) (heps : (idleSpeedEps F).isFinite = true) :
    MotionAccumulator α where
  maxSamples := maxSamples
  maxSamples_pos := hpos
  series := .empty
  run := .init (some (idleSpeedEps F)) fun line hline => by
    rw [← Option.some.inj hline]
    exact heps

/-- `add`. -/
def add (acc : MotionAccumulator α) (odom : Odom α) : MotionAccumulator α × Bool :=
  let s := odom.sample
  if odom.robot = "" then (acc, false)
  else if ¬ (s.x.isFinite ∧ s.y.isFinite) then (acc, false)
  else
    let (run, kept) := acc.run.add F ⟨odom.robot, ⟨s.t, s.v.abs⟩⟩
    if kept then
      ({ acc with
          run := run
          series := acc.series.set odom.robot
            (pushBounded acc.maxSamples (acc.series.getD odom.robot []) s) }, true)
    else ({ acc with run := run }, false)

/-- The accumulator under its messages. -/
def machine : Machine (MotionAccumulator α) (Odom α) Bool := ⟨add F⟩

/-- `series`: the rings, without the empty ones. -/
def window (acc : MotionAccumulator α) : Dict String (List (MotionSample α)) :=
  acc.series.filter fun _ samples => !samples.isEmpty

/-- `run_totals`. -/
def runTotals (acc : MotionAccumulator α) : Dict String (SeriesTotals α) := acc.run.totals

end MotionAccumulator

/-! ## The two scopes agree -/

section Exact

/-- The speed of a sample at its stamp, as the totals see it. -/
def MotionSample.speed (s : MotionSample α) : Sample α := ⟨s.t, s.v.abs⟩

/-- A sample that is offered to the totals. -/
def offered (robot : String) (s : MotionSample α) : Bool :=
  robot ≠ "" && (s.x.isFinite && s.y.isFinite)

/-- A sample that can be accepted. -/
def usableFor (robot : String) (s : MotionSample α) : Bool := offered robot s && s.speed.usable

/-- The accepted samples of a robot. -/
def acceptedSamples (robot : String) (odoms : List (Odom α)) : List (MotionSample α) :=
  advancing (usableFor robot) MotionSample.t ((odoms.filter (·.robot = robot)).map Odom.sample)

/-- What the totals are fed. -/
def runFeed (odoms : List (Odom α)) : List (Fed α) :=
  (odoms.filter fun o => offered o.robot o.sample).map fun o => ⟨o.robot, o.sample.speed⟩

omit [IsStrictOrderedRing α] in
lemma runFeed_concat (odoms : List (Odom α)) (o : Odom α) :
    runFeed (odoms ++ [o]) =
      if offered o.robot o.sample then runFeed odoms ++ [⟨o.robot, o.sample.speed⟩]
      else runFeed odoms := by
  unfold runFeed
  rw [List.filter_append, List.map_append]
  split_ifs with h <;> simp [h]

omit [IsStrictOrderedRing α] in
/-- **One rule.**  The points the totals accept are the speeds of the accepted samples. -/
lemma acceptedPoints_runFeed (robot : String) (odoms : List (Odom α)) :
    acceptedPoints robot (runFeed odoms) =
      (acceptedSamples robot odoms).map MotionSample.speed := by
  have hview : ((runFeed odoms).filter (·.label = robot)).map Fed.point =
      (((odoms.filter (·.robot = robot)).map Odom.sample).filter (offered robot)).map
        MotionSample.speed := by
    induction odoms using List.reverseRecOn with
    | nil => rfl
    | append_singleton odoms o ih =>
      rw [runFeed_concat, List.filter_append, List.map_append, List.filter_append, List.map_append,
        ← ih]
      by_cases hrobot : o.robot = robot
      · subst hrobot
        by_cases hoffered : offered o.robot o.sample = true
        · simp [hoffered]
        · simp [hoffered]
      · split_ifs <;> simp [hrobot]
  unfold acceptedPoints acceptedSamples
  rw [hview]
  exact (map_advancing MotionSample.speed (offered robot) (fun _ => rfl) (fun _ => rfl) _).symm

omit [IsStrictOrderedRing α] in
lemma acceptedSamples_concat (robot : String) (odoms : List (Odom α)) (o : Odom α) :
    acceptedSamples robot (odoms ++ [o]) =
      if o.robot = robot then
        keepNext (usableFor robot) MotionSample.t (acceptedSamples robot odoms) o.sample
      else acceptedSamples robot odoms := by
  unfold acceptedSamples
  rw [List.filter_append, List.map_append]
  split_ifs with hrobot
  · rw [List.filter_cons_of_pos (by simpa using hrobot), List.filter_nil, List.map_cons,
      List.map_nil, advancing_concat]
  · rw [List.filter_cons_of_neg (by simpa using hrobot), List.filter_nil, List.map_nil,
      List.append_nil]

/-- The ring of a robot, absent while it has no accepted sample. -/
def ringOf (maxSamples : ℕ) (samples : List (MotionSample α)) : Option (List (MotionSample α)) :=
  if samples = [] then none else some (lastN maxSamples samples)

/-- **One call.**  A message is kept exactly when its sample can be accepted and advances, and then
it enters both scopes. -/
lemma add_eq (acc : MotionAccumulator α) (o : Odom α) :
    acc.add F o =
      if offered o.robot o.sample = true then
        let (run, kept) := acc.run.add F ⟨o.robot, o.sample.speed⟩
        if kept then
          ({ acc with
              run := run
              series := acc.series.set o.robot
                (pushBounded acc.maxSamples (acc.series.getD o.robot []) o.sample) }, true)
        else ({ acc with run := run }, false)
      else (acc, false) := by
  unfold MotionAccumulator.add offered
  by_cases hrobot : o.robot = ""
  · simp [hrobot]
  · by_cases hfinite : o.sample.x.isFinite = true ∧ o.sample.y.isFinite = true
    · rw [if_neg hrobot, if_neg (not_not.mpr hfinite), if_pos (by simp [hrobot, hfinite])]
      rfl
    · simp [hrobot, hfinite]

variable {maxSamples : ℕ} (hpos : 0 < maxSamples)

/-- The threshold of the totals. -/
lemma idle_finite :
    ∀ line ∈ some (idleSpeedEps (.exact α)), (line : PyFloat α).isFinite = true := by
  intro line hline
  rw [← Option.some.inj hline]
  rfl

/-- Both scopes are about the accepted samples. -/
structure Scopes (maxSamples : ℕ) (odoms : List (Odom α)) (acc : MotionAccumulator α) : Prop where
  bound : acc.maxSamples = maxSamples
  run : acc.run = (TimeSeriesAccumulator.machine (.exact α)).run
    (.init (some (idleSpeedEps (.exact α))) idle_finite) (runFeed odoms)
  series : ∀ robot, acc.series.get? robot = ringOf maxSamples (acceptedSamples robot odoms)

omit [IsStrictOrderedRing α] in
lemma keepNext_speed {robot : String} {kept : List (MotionSample α)} {s : MotionSample α}
    (hoffered : offered robot s = true) :
    (usableFor robot s = true ∧ ∀ last ∈ kept.getLast?, last.t < s.t) ↔
      s.speed.usable = true ∧ ∀ last ∈ (kept.map MotionSample.speed).getLast?,
        last.t < s.speed.t := by
  unfold usableFor
  rw [hoffered, Bool.true_and, List.getLast?_map]
  simp [MotionSample.speed]

omit [Field α] [LinearOrder α] [IsStrictOrderedRing α] in
lemma ringOf_concat {maxSamples : ℕ} (samples : List (MotionSample α)) (s : MotionSample α) :
    ringOf maxSamples (samples ++ [s]) =
      some (pushBounded maxSamples ((ringOf maxSamples samples).getD []) s) := by
  unfold ringOf
  rw [if_neg (by simp)]
  by_cases hnil : samples = []
  · subst hnil
    rfl
  · rw [if_neg hnil, Option.getD_some, pushBounded_lastN]

/-- A message is answered by the rule of acceptance. -/
lemma Scopes.answer {past : List (Odom α)} {acc : MotionAccumulator α}
    (h : Scopes maxSamples past acc) (o : Odom α) :
    (acc.add (.exact α) o).2 = true ↔
      usableFor o.robot o.sample = true ∧
        ∀ last ∈ (acceptedSamples o.robot past).getLast?, last.t < o.sample.t := by
  rw [add_eq]
  by_cases hoffered : offered o.robot o.sample = true
  · have hanswer := add_answer (α := α) idle_finite (runFeed past) ⟨o.robot, o.sample.speed⟩
    rw [← h.run, acceptedPoints_runFeed, ← keepNext_speed hoffered] at hanswer
    rw [if_pos hoffered, ← hanswer]
    generalize acc.run.add (.exact α) ⟨o.robot, o.sample.speed⟩ = result
    obtain ⟨run, kept⟩ := result
    cases kept <;> simp
  · rw [if_neg hoffered]
    refine iff_of_false Bool.false_ne_true ?_
    rintro ⟨husable, -⟩
    exact hoffered (Bool.and_eq_true _ _ ▸ husable : _ ∧ _).1

/-- **Every run.** -/
lemma scopes_run (odoms : List (Odom α)) :
    Scopes maxSamples odoms
      ((MotionAccumulator.machine (.exact α)).run (.init (.exact α) maxSamples hpos rfl) odoms) := by
  refine Machine.run_history (I := Scopes maxSamples) ⟨rfl, rfl, fun _ => rfl⟩ ?_ odoms
  intro past o h
  generalize (MotionAccumulator.machine (.exact α)).run (.init (.exact α) maxSamples hpos rfl) past
    = acc at *
  show Scopes maxSamples (past ++ [o]) (acc.add (.exact α) o).1
  have hseries (robot : String) (hne : o.robot ≠ robot) :
      acceptedSamples robot (past ++ [o]) = acceptedSamples robot past := by
    rw [acceptedSamples_concat, if_neg hne]
  rw [add_eq]
  by_cases hoffered : offered o.robot o.sample = true
  · rw [if_pos hoffered]
    have hrun : (acc.run.add (.exact α) ⟨o.robot, o.sample.speed⟩).1 =
        (TimeSeriesAccumulator.machine (.exact α)).run
          (.init (some (idleSpeedEps (.exact α))) idle_finite) (runFeed (past ++ [o])) := by
      rw [runFeed_concat, if_pos hoffered, Machine.run_concat, ← h.run]
      rfl
    have hanswer := h.answer o
    rw [add_eq, if_pos hoffered] at hanswer
    have hself := acceptedSamples_concat o.robot past o
    rw [if_pos rfl] at hself
    generalize acc.run.add (.exact α) ⟨o.robot, o.sample.speed⟩ = result at hrun hanswer ⊢
    obtain ⟨run, kept⟩ := result
    dsimp only at hrun hanswer ⊢
    by_cases hkept : kept = true
    · rw [if_pos hkept] at hanswer ⊢
      rw [keepNext, if_pos (hanswer.mp rfl)] at hself
      refine ⟨h.bound, hrun, fun robot => ?_⟩
      dsimp only
      rw [Dict.get?_set]
      by_cases hrobot : robot = o.robot
      · subst hrobot
        rw [if_pos rfl, hself, ringOf_concat, ← h.series, h.bound]
        rfl
      · rw [if_neg hrobot, hseries robot (Ne.symm hrobot)]
        exact h.series robot
    · rw [if_neg hkept] at hanswer ⊢
      rw [keepNext, if_neg fun hk => Bool.false_ne_true (hanswer.mpr hk)] at hself
      refine ⟨h.bound, hrun, fun robot => ?_⟩
      by_cases hrobot : robot = o.robot
      · subst hrobot
        rw [hself]
        exact h.series o.robot
      · rw [hseries robot (Ne.symm hrobot)]
        exact h.series robot
  · rw [if_neg hoffered]
    refine ⟨h.bound, ?_, fun robot => ?_⟩
    · rw [runFeed_concat, if_neg hoffered]
      exact h.run
    · by_cases hrobot : robot = o.robot
      · subst hrobot
        have hanswer := h.answer o
        rw [add_eq, if_neg hoffered] at hanswer
        rw [acceptedSamples_concat, if_pos rfl, keepNext,
          if_neg fun hk => Bool.false_ne_true (hanswer.mpr hk)]
        exact h.series o.robot
      · rw [hseries robot (Ne.symm hrobot)]
        exact h.series robot

end Exact

/-- What `add` has kept of a robot. -/
lemma kept_samples {maxSamples : ℕ} (hpos : 0 < maxSamples) (odoms : List (Odom α))
    (robot : String) :
    ((keptInputs (MotionAccumulator.machine (.exact α)) (.init (.exact α) maxSamples hpos rfl)
      odoms).filter (·.robot = robot)).map Odom.sample = acceptedSamples robot odoms := by
  refine keptInputs_eq_advancing _ (fun past o hrobot => ?_) odoms
  have hanswer := (scopes_run hpos past).answer o
  rw [of_decide_eq_true hrobot] at hanswer
  exact hanswer

/-- **Streaming statistics are batch statistics.**  For every stream the totals of a label are
those of the points it accepted, which are the finite ones that advance; and for every stream of
odometry the ring of a robot holds its last accepted samples, as many as fit, while the totals of
the run cover all of them. -/
theorem streaming_is_batch (α : Type*) [Field α] [LinearOrder α] [IsStrictOrderedRing α] :
    (∀ (threshold : Option (PyFloat α)) (h : ∀ line ∈ threshold, line.isFinite = true)
      (feed : List (Fed α)) (label : String),
      let M := TimeSeriesAccumulator.machine (.exact α)
      ((keptInputs M (.init threshold h) feed).filter (·.label = label)).map Fed.point =
        acceptedPoints label feed ∧
      match (M.run (.init threshold h) feed).totals.get? label with
      | none => acceptedPoints label feed = []
      | some totals => BatchTotals threshold (acceptedPoints label feed) totals) ∧
    ∀ (maxSamples : ℕ) (hpos : 0 < maxSamples) (odoms : List (Odom α)) (robot : String),
      let M := MotionAccumulator.machine (.exact α)
      let init := MotionAccumulator.init (.exact α) maxSamples hpos rfl
      let kept := ((keptInputs M init odoms).filter (·.robot = robot)).map Odom.sample
      kept = acceptedSamples robot odoms ∧
      (M.run init odoms).window.get? robot =
        (if kept = [] then none else some (lastN maxSamples kept)) ∧
      match (M.run init odoms).runTotals.get? robot with
      | none => kept = []
      | some totals => BatchTotals (some (.fin (1 / 100))) (kept.map MotionSample.speed) totals := by
  refine ⟨fun threshold h feed label => ?_, ?_⟩
  · exact ⟨kept_run h feed label, totals_run threshold h feed label⟩
  intro maxSamples hpos odoms robot M init kept
  have hkept : kept = acceptedSamples robot odoms := kept_samples hpos odoms robot
  have hscopes := scopes_run hpos odoms
  refine ⟨hkept, ?_, ?_⟩
  · have hring := hscopes.series robot
    rw [← hkept] at hring
    show ((M.run init odoms).series.filter _).get? robot = ringOf maxSamples kept
    rw [Dict.get?_filter, hring]
    unfold ringOf
    split_ifs with hnil
    · rfl
    · have hne : (lastN maxSamples kept).isEmpty = false := by
        have hlength : 0 < kept.length := List.length_pos_iff.mpr hnil
        rw [List.isEmpty_eq_false_iff, ← List.length_pos_iff]
        unfold lastN
        rw [List.length_drop]
        omega
      rw [Option.filter_some, hne]
      rfl
  · have htotals := totals_run (some (idleSpeedEps (.exact α))) idle_finite (runFeed odoms) robot
    rw [acceptedPoints_runFeed, ← hkept, ← hscopes.run] at htotals
    show match (M.run init odoms).run.totals.get? robot with
      | none => kept = []
      | some totals => BatchTotals _ (kept.map MotionSample.speed) totals
    cases hget : (M.run init odoms).run.totals.get? robot with
    | none =>
      rw [hget] at htotals
      exact List.map_eq_nil_iff.mp htotals
    | some totals =>
      rw [hget] at htotals
      exact htotals

/-- Four samples of a robot, one of them with a stamp that does not advance. -/
def shortDrive : List (Odom ℚ) :=
  [⟨"bot1", .fin 0, .fin 0, .fin 0, .fin 1⟩, ⟨"bot1", .fin 1, .fin 1, .fin 0, .fin 1⟩,
    ⟨"bot1", .fin 1, .fin 2, .fin 0, .fin 1⟩, ⟨"bot1", .fin 2, .fin 1, .fin 0, .fin (-1)⟩]

theorem streaming_is_batch_drive :
    ((MotionAccumulator.machine (.exact ℚ)).run (.init (.exact ℚ) 2 Nat.two_pos rfl)
        shortDrive).window.get? "bot1" =
      some [⟨.fin 1, .fin 1, .fin 0, .fin 1⟩, ⟨.fin 2, .fin 1, .fin 0, .fin (-1)⟩] := by
  rw [((streaming_is_batch ℚ).2 2 Nat.two_pos shortDrive "bot1").2.1]
  decide +kernel

lemma no_threshold_finite : ∀ line ∈ (none : Option (PyFloat ℚ)), line.isFinite = true := by
  intro line hline
  cases hline

/-- A single point has no batch integral, and an area of zero in the totals. -/
theorem single_point_integral :
    ¬ trapezoidIntegral (.exact ℚ) [.fin 0] [.fin 1] =
      .ok ((((TimeSeriesAccumulator.machine (.exact ℚ)).run (.init none no_threshold_finite)
        [⟨"bot1", .fin 0, .fin 1⟩]).totals.get? "bot1").map SeriesTotals.integral) := by
  decide +kernel

end Orchestrator

end MiniatureWarehouse
