import MiniatureWarehouse.Framework.Edges
import MiniatureWarehouse.Safety.FrozenEvidence

/-!
# Health reports over a whole run

The monitor is fed by several subscriptions and asked for its judgement by a timer, in any
order.  Here is the whole object as a machine, observations and evaluations alike, and what a
report says in terms of the history alone: a source is `OK` exactly when its last message is
recent, usable and not one repeat too many (`SourceOk`), and the epoch counts the reports that
differ from the one before.

What the monitor remembers of a source is a function of the messages of that source
(`Tracks`), so neither the other sources nor the evaluations in between matter.
-/

namespace MiniatureWarehouse

namespace SensorHealthMonitor

/-! ## The object as a machine -/

/-- A call of the monitor. -/
inductive HealthEvent (α : Type*)
  | observe (source : String) (obs : SourceObservation α)
  | evaluate (now : PyFloat α)

/-- The message an event brings from a source. -/
def HealthEvent.observed? {α : Type*} (source : String) :
    HealthEvent α → Option (SourceObservation α)
  | observe source' obs => if source' = source then some obs else none
  | evaluate _ => none

/-- The messages of one source, in the order received. -/
def observed {α : Type*} (source : String) (es : List (HealthEvent α)) :
    List (SourceObservation α) :=
  es.filterMap (HealthEvent.observed? source)

lemma observed_concat_observe {α : Type*} (source source' : String) (es : List (HealthEvent α))
    (obs : SourceObservation α) :
    observed source (es ++ [.observe source' obs]) =
      observed source es ++ if source' = source then [obs] else [] := by
  unfold observed
  rw [List.filterMap_append]
  by_cases h : source' = source <;> simp [HealthEvent.observed?, h]

lemma observed_concat_evaluate {α : Type*} (source : String) (es : List (HealthEvent α))
    (now : PyFloat α) :
    observed source (es ++ [.evaluate now]) = observed source es := by
  simp [observed, HealthEvent.observed?]

section Machine

variable {α : Type*} [Field α] [LinearOrder α] [IsStrictOrderedRing α] (F : FloatFormat α)

/-- The monitor with both its methods; an observation that raises changes nothing. -/
def healthMachine : Machine (SensorHealthMonitor α) (HealthEvent α) (Option HealthReport) where
  step m
    | .observe source obs => ((machine.step m (source, obs)).1, none)
    | .evaluate now => ((m.evaluate F now).1, some (m.evaluate F now).2)

/-- The verdict maps of all evaluations, in order. -/
def verdictMaps (thresholds : Dict String (SourceThresholds α)) (es : List (HealthEvent α)) :
    List (Dict String SourceVerdict) :=
  ((healthMachine F).emitted (init thresholds) es).map HealthReport.verdicts

end Machine

/-! ## What the history says -/

section Spec

variable {α : Type*} [LinearOrder α]

/-- The frozen run of a stream: every message advances the run over the one before it. -/
def runOf (obs : List (SourceObservation α)) : Option String × ℕ :=
  (obs.foldl (fun s o => (advance s.1 s.2 o, some o)) ((none, 0), none)).1

lemma runOf_concat (obs : List (SourceObservation α)) (o : SourceObservation α) :
    runOf (obs ++ [o]) = advance (runOf obs) obs.getLast? o := by
  have hlast : (obs.foldl (fun s o => (advance s.1 s.2 o, some o)) ((none, 0), none)).2 =
      obs.getLast? := by
    induction obs using List.reverseRecOn with
    | nil => rfl
    | append_singleton obs o _ => rw [List.foldl_concat, List.getLast?_concat]
  unfold runOf
  rw [List.foldl_concat, hlast]

end Spec

section Verdict

variable {α : Type*} [Field α] [LinearOrder α] [IsStrictOrderedRing α]

/-- The rule of a source that permits motion, on what was received from it up to `now`. -/
def SourceOk (F : FloatFormat α) (limits : SourceThresholds α)
    (received : List (SourceObservation α)) (now : PyFloat α) : Prop :=
  ∃ obs, received.getLast? = some obs ∧
    now.isFinite = true ∧
    .fin 0 ≤ F.sub now obs.receivedMonotonicS ∧
    F.sub now obs.receivedMonotonicS ≤ .fin limits.staleAfterS ∧
    ((runOf received).1 = none ∨ (runOf received).2 < limits.frozenRepeats) ∧
    obs.stampS.isFinite = true ∧
    .fin limits.minValidFraction ≤ obs.validFraction ∧ obs.validFraction ≤ .fin 1

/-- An age in a bounded interval is the age of a finite reception time. -/
lemma isFinite_of_age {F : FloatFormat α} {now t : PyFloat α} {bound : α}
    (hnow : now.isFinite = true) (hlow : .fin 0 ≤ F.sub now t)
    (hhigh : F.sub now t ≤ .fin bound) : t.isFinite = true := by
  obtain ⟨x, rfl⟩ := PyFloat.isFinite_iff.mp hnow
  cases t with
  | fin y => rfl
  | nan => simp [FloatFormat.sub, FloatFormat.add, PyFloat.neg] at hlow
  | posInf => simp [FloatFormat.sub, FloatFormat.add, PyFloat.neg] at hlow
  | negInf => simp [FloatFormat.sub, FloatFormat.add, PyFloat.neg] at hhigh

/-- The two comparisons of the age test reject an age outside the interval, and only that. -/
lemma age_in_interval {F : FloatFormat α} {now t : PyFloat α} {bound : α}
    (hnow : now.isFinite = true) (ht : t.isFinite = true) :
    ¬ (F.sub now t < .fin 0 ∨ .fin bound < F.sub now t) ↔
      .fin 0 ≤ F.sub now t ∧ F.sub now t ≤ .fin bound := by
  obtain ⟨x, rfl⟩ := PyFloat.isFinite_iff.mp hnow
  obtain ⟨y, rfl⟩ := PyFloat.isFinite_iff.mp ht
  have hnan : F.sub (.fin x) (.fin y) ≠ .nan := F.round_ne_nan _
  constructor
  · intro h
    rw [not_or] at h
    exact ⟨PyFloat.le_of_not_lt (by simp) hnan h.1, PyFloat.le_of_not_lt hnan (by simp) h.2⟩
  · rintro ⟨hlow, hhigh⟩ (h | h)
    · exact PyFloat.not_lt_of_le hlow h
    · exact PyFloat.not_lt_of_le hhigh h

omit [IsStrictOrderedRing α] in
/-- The two tests of the valid fraction accept exactly the interval above the minimum. -/
lemma fraction_in_interval (limits : SourceThresholds α) (f : PyFloat α) :
    ((.fin 0 ≤ f ∧ f ≤ .fin 1) ∧ ¬ f < .fin limits.minValidFraction) ↔
      .fin limits.minValidFraction ≤ f ∧ f ≤ .fin 1 := by
  have hpos := limits.minValidFraction_pos
  cases f with
  | fin x =>
    simp only [PyFloat.fin_le_fin, PyFloat.fin_lt_fin, not_lt]
    constructor
    · rintro ⟨⟨-, hle⟩, hmin⟩
      exact ⟨hmin, hle⟩
    · rintro ⟨hmin, hle⟩
      exact ⟨⟨hpos.le.trans hmin, hle⟩, hmin⟩
  | nan => simp
  | posInf => simp
  | negInf => simp

/-- A rule that would give a worse verdict is passed. -/
lemma passes_iff {c : Prop} [Decidable c] {worse v : SourceVerdict} (h : worse ≠ .ok) :
    (if c then worse else v) = .ok ↔ ¬ c ∧ v = .ok := by
  by_cases hc : c
  · simp [hc, h]
  · simp [hc]

/-- **When a source is `OK`.**  The verdict of a monitor that remembers the last message and the
run of a stream is the rule on that stream. -/
lemma verdict_eq_ok_iff (F : FloatFormat α) {m : SensorHealthMonitor α} {source : String}
    {received : List (SourceObservation α)} (hlast : m.last.get? source = received.getLast?)
    (hrun : m.frozenRun source = runOf received) (limits : SourceThresholds α)
    (now : PyFloat α) :
    m.verdict F source limits now = .ok ↔ SourceOk F limits received now := by
  unfold verdict SourceOk
  rw [hlast]
  cases hobs : received.getLast? with
  | none => simp
  | some obs =>
    have hruns : m.runs.getD source (none, 0) = runOf received := hrun
    have hfraction := fraction_in_interval limits obs.validFraction
    have hfrozen : ¬ ((runOf received).1 ≠ none ∧ limits.frozenRepeats ≤ (runOf received).2) ↔
        (runOf received).1 = none ∨ (runOf received).2 < limits.frozenRepeats := by
      rw [not_and_or, not_not, not_le]
    simp only [hruns, Option.some.injEq, exists_eq_left']
    rw [passes_iff (by decide), passes_iff (by decide), passes_iff (by decide),
      passes_iff (by decide), passes_iff (by decide), passes_iff (by decide), hfrozen, not_not]
    simp only [Bool.not_eq_true', Bool.not_eq_false, Bool.and_eq_true, and_true]
    constructor
    · rintro ⟨⟨hnow, ht⟩, hage, hcount, hstamp, hrange, hmin⟩
      obtain ⟨hlow, hhigh⟩ := (age_in_interval hnow ht).mp hage
      exact ⟨hnow, hlow, hhigh, hcount, hstamp, hfraction.mp ⟨hrange, hmin⟩⟩
    · rintro ⟨hnow, hlow, hhigh, hcount, hstamp, hvalid⟩
      have ht := isFinite_of_age hnow hlow hhigh
      obtain ⟨hrange, hmin⟩ := hfraction.mpr hvalid
      exact ⟨⟨hnow, ht⟩, (age_in_interval hnow ht).mpr ⟨hlow, hhigh⟩, hcount, hstamp, hrange,
        hmin⟩

end Verdict

/-! ## What the monitor remembers -/

section Runs

variable {α : Type*} [Field α] [LinearOrder α] [IsStrictOrderedRing α] {F : FloatFormat α}
  {thresholds : Dict String (SourceThresholds α)}

/-- The memory of the monitor after the events `es`: for each declared source the last message
and the run of its stream, and the verdicts reported so far. -/
structure Tracks (F : FloatFormat α) (thresholds : Dict String (SourceThresholds α))
    (es : List (HealthEvent α)) (m : SensorHealthMonitor α) : Prop where
  thresholds_eq : m.thresholds = thresholds
  last : ∀ source, thresholds.contains source = true →
    m.last.get? source = (observed source es).getLast?
  run : ∀ source, thresholds.contains source = true →
    m.frozenRun source = runOf (observed source es)
  previous : m.previous = (verdictMaps F thresholds es).getLast?
  epoch : m.epoch = Edges.changes (verdictMaps F thresholds es)

lemma verdictMaps_concat_observe (es : List (HealthEvent α)) (source : String)
    (obs : SourceObservation α) :
    verdictMaps F thresholds (es ++ [.observe source obs]) = verdictMaps F thresholds es := by
  unfold verdictMaps
  rw [Machine.emitted_append, Machine.emitted_singleton]
  simp [healthMachine]

lemma verdictMaps_concat_evaluate (es : List (HealthEvent α)) (now : PyFloat α) :
    verdictMaps F thresholds (es ++ [.evaluate now]) = verdictMaps F thresholds es ++
      [(((healthMachine F).run (init thresholds) es).evaluate F now).2.verdicts] := by
  unfold verdictMaps
  rw [Machine.emitted_append, Machine.emitted_singleton, List.map_append]
  rfl

/-- What an evaluation puts in the report and remembers of it. -/
lemma evaluate_epoch (m : SensorHealthMonitor α) (now : PyFloat α) :
    (m.evaluate F now).2.healthEpoch = (m.evaluate F now).1.epoch ∧
      (m.evaluate F now).1.previous = some (m.evaluate F now).2.verdicts ∧
      (m.evaluate F now).1.epoch = m.epoch +
        if ∃ v, m.previous = some v ∧ (m.evaluate F now).2.verdicts ≠ v then 1 else 0 := by
  refine ⟨rfl, rfl, ?_⟩
  unfold evaluate
  cases hprev : m.previous with
  | none => simp
  | some v =>
    simp only [Option.some.injEq, exists_eq_left', decide_eq_true_eq]
    split_ifs <;> rfl

/-- A message of a declared source is the next one of its history. -/
lemma Tracks.observe_declared {es : List (HealthEvent α)} {m : SensorHealthMonitor α}
    (h : Tracks F thresholds es m) {source : String} (hdecl : thresholds.contains source = true)
    (obs : SourceObservation α) :
    Tracks F thresholds (es ++ [.observe source obs]) (machine.step m (source, obs)).1 := by
  have hmaps : verdictMaps F thresholds (es ++ [.observe source obs]) = verdictMaps F thresholds es :=
    verdictMaps_concat_observe es source obs
  rw [SensorHealthMonitor.observe_declared (h.thresholds_eq ▸ hdecl) obs]
  refine ⟨h.thresholds_eq, ?_, ?_, ?_, ?_⟩
  · intro source' hdecl'
    show (m.last.set source obs).get? source' = _
    rw [observed_concat_observe]
    by_cases hs : source = source'
    · subst hs
      rw [Dict.get?_set_self, if_pos rfl, List.getLast?_concat]
    · rw [Dict.get?_set_of_ne _ _ (Ne.symm hs), if_neg hs, List.append_nil, h.last source' hdecl']
  · intro source' hdecl'
    show ((m.runs.set source (m.advanceRun source obs)).get? source').getD _ = _
    rw [observed_concat_observe]
    by_cases hs : source = source'
    · subst hs
      rw [Dict.get?_set_self, Option.getD_some, if_pos rfl, runOf_concat, advanceRun_eq,
        h.run source hdecl, h.last source hdecl]
    · rw [Dict.get?_set_of_ne _ _ (Ne.symm hs), if_neg hs, List.append_nil]
      exact h.run source' hdecl'
  · rw [hmaps]
    exact h.previous
  · rw [hmaps]
    exact h.epoch

/-- An undeclared source raises, and its messages are nobody's history. -/
lemma Tracks.observe_undeclared {es : List (HealthEvent α)} {m : SensorHealthMonitor α}
    (h : Tracks F thresholds es m) {source : String} (hdecl : ¬ thresholds.contains source = true)
    (obs : SourceObservation α) :
    Tracks F thresholds (es ++ [.observe source obs]) (machine.step m (source, obs)).1 := by
  have hundecl : ¬ m.thresholds.contains source = true := h.thresholds_eq ▸ hdecl
  have hstep : (machine.step m (source, obs)).1 = m := by
    simp [machine, SensorHealthMonitor.observe, hundecl]
  have hother : ∀ source', thresholds.contains source' = true →
      observed source' (es ++ [.observe source obs]) = observed source' es := by
    intro source' hdecl'
    have hs : source ≠ source' := fun hs => hdecl (hs ▸ hdecl')
    rw [observed_concat_observe, if_neg hs, List.append_nil]
  have hmaps : verdictMaps F thresholds (es ++ [.observe source obs]) = verdictMaps F thresholds es :=
    verdictMaps_concat_observe es source obs
  rw [hstep]
  refine ⟨h.thresholds_eq, ?_, ?_, ?_, ?_⟩
  · intro source' hdecl'
    rw [hother source' hdecl']
    exact h.last source' hdecl'
  · intro source' hdecl'
    rw [hother source' hdecl']
    exact h.run source' hdecl'
  · rw [hmaps]
    exact h.previous
  · rw [hmaps]
    exact h.epoch

lemma Tracks.observe {es : List (HealthEvent α)} {m : SensorHealthMonitor α}
    (h : Tracks F thresholds es m) (source : String) (obs : SourceObservation α) :
    Tracks F thresholds (es ++ [.observe source obs]) (machine.step m (source, obs)).1 := by
  by_cases hdecl : thresholds.contains source = true
  · exact h.observe_declared hdecl obs
  · exact h.observe_undeclared hdecl obs

lemma Tracks.evaluate {es : List (HealthEvent α)}
    (h : Tracks F thresholds es ((healthMachine F).run (init thresholds) es)) (now : PyFloat α) :
    Tracks F thresholds (es ++ [.evaluate now])
      (((healthMachine F).run (init thresholds) es).evaluate F now).1 := by
  obtain ⟨-, hprevious, hepoch⟩ :=
    evaluate_epoch (F := F) ((healthMachine F).run (init thresholds) es) now
  refine ⟨h.thresholds_eq, ?_, ?_, ?_, ?_⟩
  · intro source hdecl
    rw [observed_concat_evaluate]
    exact h.last source hdecl
  · intro source hdecl
    rw [observed_concat_evaluate]
    exact h.run source hdecl
  · rw [hprevious, verdictMaps_concat_evaluate, List.getLast?_concat]
  · rw [hepoch, verdictMaps_concat_evaluate, Edges.changes_concat, h.epoch, h.previous]

/-- The memory is a function of the history, whatever the order of the calls. -/
lemma tracks_run (thresholds : Dict String (SourceThresholds α)) (es : List (HealthEvent α)) :
    Tracks F thresholds es ((healthMachine F).run (init thresholds) es) := by
  apply Machine.run_history (I := Tracks F thresholds)
  · exact ⟨rfl, fun _ _ => rfl, fun _ _ => rfl, rfl, rfl⟩
  · intro past e h
    cases e with
    | observe source obs => exact h.observe source obs
    | evaluate now => exact h.evaluate now

/-- The verdict of a declared source is the one in the map of the report. -/
lemma get?_verdicts {m : SensorHealthMonitor α} {source : String} {limits : SourceThresholds α}
    (h : m.thresholds.get? source = some limits) (now : PyFloat α) :
    (m.evaluate F now).2.verdicts.get? source = some (m.verdict F source limits now) := by
  show (m.thresholds.mapValues _).get? source = _
  rw [Dict.get?_mapValues, h]
  rfl

/-- **Every report of every run, from the history alone.**  A source is `OK` exactly when the
rule holds of the messages received from it, the report is healthy exactly when the rule holds
of every declared source, and its epoch is the number of evaluations up to this one whose
verdicts differed from those before. -/
theorem report_iff_history (F : FloatFormat α) (thresholds : Dict String (SourceThresholds α))
    (es : List (HealthEvent α)) (now : PyFloat α) :
    let report := (((healthMachine F).run (init thresholds) es).evaluate F now).2
    (∀ source limits, thresholds.get? source = some limits →
        (report.verdicts.get? source = some .ok ↔
          SourceOk F limits (observed source es) now)) ∧
      (report.healthy = true ↔ ∀ source limits, thresholds.get? source = some limits →
        SourceOk F limits (observed source es) now) ∧
      report.healthEpoch = Edges.changes (verdictMaps F thresholds (es ++ [.evaluate now])) := by
  have htracks := tracks_run (F := F) thresholds es
  have hok : ∀ source limits, thresholds.get? source = some limits →
      ((((healthMachine F).run (init thresholds) es).verdict F source limits now = .ok) ↔
        SourceOk F limits (observed source es) now) := by
    intro source limits hlimits
    have hdecl : thresholds.contains source = true :=
      (Dict.contains_iff _ _).mpr ⟨limits, hlimits⟩
    exact verdict_eq_ok_iff F (htracks.last source hdecl) (htracks.run source hdecl) limits now
  refine ⟨?_, ?_, ?_⟩
  · intro source limits hlimits
    rw [get?_verdicts (htracks.thresholds_eq ▸ hlimits), Option.some.injEq]
    exact hok source limits hlimits
  · show (Dict.entries _).all _ = true ↔ _
    rw [List.all_eq_true]
    constructor
    · intro hall source limits hlimits
      have hget := get?_verdicts (F := F) (htracks.thresholds_eq ▸ hlimits) now
      have hverdict := hall _ ((Dict.mem_entries_iff _).mpr hget)
      exact (hok source limits hlimits).mp (by simpa using hverdict)
    · rintro hall ⟨source, v⟩ hmem
      have hget : (thresholds.get? source).map (fun limits =>
          ((healthMachine F).run (init thresholds) es).verdict F source limits now) = some v := by
        have hentry := (Dict.mem_entries_iff _).mp hmem
        rwa [Dict.get?_mapValues, htracks.thresholds_eq] at hentry
      obtain ⟨limits, hlimits, rfl⟩ := Option.map_eq_some_iff.mp hget
      have hverdict := (hok source limits hlimits).mpr (hall source limits hlimits)
      simpa using hverdict
  · rw [(evaluate_epoch _ now).1, (htracks.evaluate now).epoch]

/-- A source observed once, evaluated before and after. -/
def observedOnce : List (HealthEvent ℚ) := [.evaluate (.fin 0), .observe "cliff_scan" (stuckAt 1)]

/-- The report after one observation: the source turned `OK`, which is the first change. -/
theorem report_iff_history_observed_once :
    let report := (((healthMachine (FloatFormat.exact ℚ)).run (init exampleThresholds)
      observedOnce).evaluate (FloatFormat.exact ℚ) (.fin 2)).2
    (report.healthy = true ↔ ∀ source limits, exampleThresholds.get? source = some limits →
      SourceOk (FloatFormat.exact ℚ) limits (observed source observedOnce) (.fin 2)) ∧
      report.healthy = true ∧ report.healthEpoch = 1 := by
  have hspec := report_iff_history (FloatFormat.exact ℚ) exampleThresholds observedOnce (.fin 2)
  refine ⟨hspec.2.1, by decide +kernel, ?_⟩
  rw [hspec.2.2]
  decide +kernel

end Runs

end SensorHealthMonitor

end MiniatureWarehouse
