import MiniatureWarehouse.Framework.RealMath
import MiniatureWarehouse.Perception.SignalTemporal
import Mathlib.Data.List.Chain

/-!
# What a green signal rests on

`evaluate` is total on data, and it reports green on one combination of facts only: every stamp is
readable, the luminance trace is long enough, readable and taken under one exposure, it has no
dark sample and covers the window without a hole, and the evidence votes green, ends green and has
no dark frame.

Coverage is the chain of the window start, the stamps of the trace and the window end.  A chain of
short steps meets every longer interval, so a stretch of the window that was dark, or not sampled
at all, rules green out.
-/

namespace MiniatureWarehouse

namespace Perception

/-! ## Chains of short steps -/

section Chain

variable {α : Type*} [AddCommGroup α] [LinearOrder α] [IsOrderedAddMonoid α]

/-- A walk from `start` to `stop` in steps of at most `g` enters every interval in between that is
longer than `g`. -/
lemma exists_mem_of_isChain_step {g start stop : α} {xs : List α}
    (h : (start :: xs ++ [stop]).IsChain fun a b => b - a ≤ g) {a b : α} (ha : start ≤ a)
    (hb : b ≤ stop) (hlong : g < b - a) : ∃ t ∈ xs, a < t ∧ t < b := by
  induction xs generalizing start with
  | nil =>
    have hstep : stop - start ≤ g := (List.isChain_cons_cons.mp h).1
    have hspan : b - a ≤ stop - start := sub_le_sub hb ha
    exact absurd (hlong.trans_le hspan) (not_lt.mpr hstep)
  | cons t ts ih =>
    obtain ⟨hstep, hrest⟩ := List.isChain_cons_cons.mp h
    rcases le_or_gt t a with hta | hat
    · -- the walk has not reached the interval yet
      obtain ⟨u, hu, hinside⟩ := ih hrest hta
      exact ⟨u, List.mem_cons_of_mem t hu, hinside⟩
    · refine ⟨t, List.mem_cons_self, hat, ?_⟩
      by_contra hpast
      have hspan : b - a ≤ t - start := sub_le_sub (not_lt.mp hpast) ha
      exact absurd (hlong.trans_le hspan) (not_lt.mpr hstep)

end Chain

variable {α : Type*} [Field α] [LinearOrder α]

/-! ## The lit trace -/

section Trace

variable (params : SignalTemporalParams α)

/-- The samples from the first lit one on: the part of the trace that has a phase when nothing
reads dark. -/
def litTrace (ordered : List (LuminanceSample α)) : List (LuminanceSample α) :=
  ordered.dropWhile fun s => ¬ .fin params.onThreshold ≤ s.greenRatio

/-- A lit sample, resolved. -/
def litPhase (s : LuminanceSample α) : Resolved α := ⟨s.stampS, .on, s.redRatio⟩

/-- A dark sample: at or below the lower threshold. -/
def IsDark (s : LuminanceSample α) : Prop := s.greenRatio ≤ .fin params.offThreshold

/-- A readable dark sample is not lit, so it resolves to the dark phase. -/
lemma nextPhase_of_isDark {s : LuminanceSample α} (phase : Option Phase) (h : IsDark params s) :
    nextPhase params phase s = some .off := by
  have hnotLit : ¬ .fin params.onThreshold ≤ s.greenRatio := by
    intro hlit
    have hle : (.fin params.onThreshold : PyFloat α) ≤ .fin params.offThreshold :=
      PyFloat.le_trans hlit h
    exact absurd (PyFloat.fin_le_fin.mp hle) (not_le.mpr params.off_lt_on)
  exact (if_neg hnotLit).trans (if_pos h)

/-- A dark sample leaves a dark phase in the trace, whatever the phase before it. -/
lemma exists_off_of_isDark {phase : Option Phase} {ordered : List (LuminanceSample α)}
    {s : LuminanceSample α} (hs : s ∈ ordered) (h : IsDark params s) :
    ∃ p ∈ binarise params phase ordered, p.phase = .off := by
  induction ordered generalizing phase with
  | nil => cases hs
  | cons x xs ih =>
    rw [binarise]
    rcases List.mem_cons.mp hs with rfl | hs
    · rw [nextPhase_of_isDark params phase h]
      exact ⟨_, List.mem_cons_self, rfl⟩
    · cases nextPhase params phase x with
      | none => exact ih hs
      | some p =>
        obtain ⟨q, hq, hoff⟩ := @ih (some p) hs
        exact ⟨q, List.mem_cons_of_mem _ hq, hoff⟩

/-- Once lit, a trace without dark samples stays lit: a sample between the thresholds holds the
phase. -/
lemma binarise_some_on {ordered : List (LuminanceSample α)} (h : ∀ s ∈ ordered, ¬ IsDark params s) :
    binarise params (some .on) ordered = ordered.map litPhase := by
  induction ordered with
  | nil => rfl
  | cons x xs ih =>
    rw [List.forall_mem_cons] at h
    have hphase : nextPhase params (some .on) x = some .on := by
      unfold nextPhase
      rw [if_neg (show ¬ x.greenRatio ≤ .fin params.offThreshold from h.1), ite_self]
    rw [binarise, hphase, List.map_cons]
    exact congrArg _ (ih h.2)

/-- A trace without dark samples resolves to its lit part, all of it lit. -/
lemma binarise_none {ordered : List (LuminanceSample α)} (h : ∀ s ∈ ordered, ¬ IsDark params s) :
    binarise params none ordered = (litTrace params ordered).map litPhase := by
  induction ordered with
  | nil => rfl
  | cons x xs ih =>
    rw [List.forall_mem_cons] at h
    unfold litTrace at ih ⊢
    rw [binarise, List.dropWhile_cons]
    by_cases hlit : .fin params.onThreshold ≤ x.greenRatio
    · have hphase : nextPhase params none x = some .on := if_pos hlit
      rw [hphase, if_neg (by simpa using hlit), List.map_cons]
      exact congrArg _ (binarise_some_on params h.2)
    · have hphase : nextPhase params none x = none := by
        unfold nextPhase
        rw [if_neg hlit, if_neg (show ¬ x.greenRatio ≤ .fin params.offThreshold from h.1)]
      rw [hphase, if_pos (by simpa using hlit)]
      exact ih h.2

end Trace

/-! ## The flash verdict -/

section Flash

variable [IsStrictOrderedRing α]

lemma exact_sub_fin (x y : α) :
    (FloatFormat.exact α).sub (.fin x) (.fin y) = .fin (x - y) := by
  simp [FloatFormat.sub, FloatFormat.add, FloatFormat.exact, PyFloat.neg, sub_eq_add_neg]

/-- The adjacent differences of a list are bounded exactly when the list is a chain of short
steps. -/
lemma all_gaps_le_iff (F : FloatFormat α) (g : α) (xs : List (PyFloat α)) :
    ((gaps F xs).all fun d => d ≤ .fin g) = true ↔ xs.IsChain fun a b => F.sub b a ≤ .fin g := by
  induction xs with
  | nil => simp [gaps]
  | cons a xs ih =>
    cases xs with
    | nil => simp [gaps]
    | cons b rest =>
      rw [gaps, List.all_cons, Bool.and_eq_true, decide_eq_true_eq, ih, List.isChain_cons_cons]

variable (params : SignalTemporalParams α)

/-- Coverage of a window, over numbers: from the window start through the stamps to the window
end in steps of at most the tolerated gap. -/
def Covered (windowStart windowEnd : α) (stamps : List α) : Prop :=
  (windowStart :: stamps ++ [windowEnd]).IsChain fun a b => b - a ≤ params.maxSampleGapS

/-- `_covers_window` decides coverage. -/
lemma covered_of_coversWindow {windowStart windowEnd : α} {first : Resolved α}
    {rest : List (Resolved α)} {stamps : List α}
    (hstamps : (first :: rest).map (·.stamp) = stamps.map .fin)
    (h : coversWindow (FloatFormat.exact α) params first rest (.fin windowStart)
      (.fin windowEnd) = true) :
    Covered params windowStart windowEnd stamps := by
  unfold coversWindow at h
  simp only [Bool.and_eq_true, Bool.not_eq_true', Bool.or_eq_false_iff, decide_eq_false_iff_not,
    all_gaps_le_iff] at h
  obtain ⟨⟨-, hfirst, hlast⟩, hchain⟩ := h
  obtain ⟨t, ts, rfl⟩ : ∃ t ts, stamps = t :: ts := by
    cases stamps with
    | nil => simp at hstamps
    | cons t ts => exact ⟨t, ts, rfl⟩
  have hfirstStamp : first.stamp = .fin t := (List.cons.inj hstamps).1
  have hrestStamps : rest.map (·.stamp) = ts.map .fin := (List.cons.inj hstamps).2
  have hlastStamp : (rest.getLastD first).stamp = .fin (ts.getLastD t) := by
    calc (rest.getLastD first).stamp = (rest.map (·.stamp)).getLastD first.stamp := by
          rw [List.getLastD_eq_getLast?, List.getLastD_eq_getLast?, List.getLast?_map,
            Option.getD_map]
      _ = (ts.map PyFloat.fin).getLastD (.fin t) := by rw [hrestStamps, hfirstStamp]
      _ = .fin (ts.getLastD t) := by
          rw [List.getLastD_eq_getLast?, List.getLastD_eq_getLast?, List.getLast?_map,
            Option.getD_map]
  rw [hfirstStamp, exact_sub_fin, PyFloat.fin_lt_fin, not_lt] at hfirst
  rw [hlastStamp, exact_sub_fin, PyFloat.fin_lt_fin, not_lt] at hlast
  rw [hstamps, List.isChain_map] at hchain
  simp only [exact_sub_fin, PyFloat.fin_le_fin] at hchain
  unfold Covered
  rw [List.cons_append, List.cons_append, List.isChain_cons_cons]
  refine ⟨hfirst, ?_⟩
  rw [← List.cons_append, List.isChain_append]
  refine ⟨hchain, List.isChain_singleton _, ?_⟩
  intro x hx y hy
  obtain rfl : windowEnd = y := by simpa using hy
  obtain rfl : ts.getLastD t = x := by
    simpa [List.getLast?_cons, List.getLastD_eq_getLast?] using hx
  exact hlast

lemma exists_median (F : FloatFormat α) {xs : List (PyFloat α)} (h : xs ≠ []) :
    ∃ p, median F xs = .ok p := by
  have hlength : (sortedByFloat id xs).length ≠ 0 := by
    rw [length_sortedByFloat]
    exact mt List.eq_nil_of_length_eq_zero h
  unfold median
  dsimp only
  rw [if_neg hlength]
  split_ifs
  · exact ⟨_, rfl⟩
  · exact ⟨_, rfl⟩

lemma length_gaps (F : FloatFormat α) (xs : List (PyFloat α)) :
    (gaps F xs).length = xs.length - 1 := by
  induction xs with
  | nil => rfl
  | cons a xs ih =>
    cases xs with
    | nil => rfl
    | cons b rest =>
      simp only [gaps, List.length_cons, ih]
      omega

/-- The verdict on an alternating trace is reached, never claims "not flashing", and reports a
positive period or none. -/
lemma judgeAlternation_total (F : FloatFormat α) (phases : List (Resolved α)) :
    ∃ v, judgeAlternation F params phases = .ok v ∧ v.isFlashing ≠ some false ∧
      optionalField positive v.measuredPeriodS := by
  have hnone : optionalField positive (none : Option (PyFloat α)) := fun x hx => by cases hx
  unfold judgeAlternation
  dsimp only
  by_cases hfew : (risingEdges phases).length < params.minRisingEdges
  · rw [if_pos hfew]
    exact ⟨_, rfl, by simp [undeterminable], hnone⟩
  · rw [if_neg hfew]
    have hedges : gaps F (risingEdges phases) ≠ [] := by
      have hlength := length_gaps F (risingEdges phases)
      have htwo := params.edges_ge_two
      intro hempty
      rw [hempty, List.length_nil] at hlength
      omega
    obtain ⟨period, hperiod⟩ := exists_median F hedges
    rw [hperiod, Except.map]
    refine ⟨_, rfl, ?_⟩
    split_ifs with hunusable
    · exact ⟨by simp [undeterminable], hnone⟩
    all_goals
      have husable : optionalField positive (some period) := by
        intro x hx
        obtain rfl := Option.some.inj hx
        simpa [finiteField, positive] using hunusable
      exact ⟨by simp, husable⟩

/-- The verdict on a resolved trace is reached; "not flashing" is the verdict of a trace that is
lit throughout and covers the window. -/
lemma judgePhases_total (F : FloatFormat α) (phases : List (Resolved α))
    (windowStart windowEnd : PyFloat α) :
    ∃ v, judgePhases F params phases windowStart windowEnd = .ok v ∧
      optionalField positive v.measuredPeriodS ∧
      (v.isFlashing = some false → ∃ first rest, phases = first :: rest ∧
        (∀ p ∈ phases, p.phase = .on) ∧
        coversWindow F params first rest windowStart windowEnd = true) := by
  have hnone : optionalField positive (none : Option (PyFloat α)) := fun x hx => by cases hx
  cases phases with
  | nil => exact ⟨_, rfl, hnone, fun h => by cases h⟩
  | cons first rest =>
    unfold judgePhases
    dsimp only
    split_ifs with hlit hcovers hdark
    · exact ⟨_, rfl, hnone, fun _ => ⟨first, rest, rfl, hlit, hcovers⟩⟩
    · exact ⟨_, rfl, hnone, fun h => by cases h⟩
    · exact ⟨_, rfl, hnone, fun h => by cases h⟩
    · obtain ⟨v, hv, hflashing, hperiod⟩ := judgeAlternation_total params F (first :: rest)
      exact ⟨v, hv, hperiod, fun h => absurd h hflashing⟩

/-- What a window of luminance samples shows when it is judged "not flashing". -/
structure Steady (windowStart windowEnd : α) (lit : List (LuminanceSample α)) : Prop where
  enough : params.minLuminanceSamples ≤ lit.length
  readable : ∀ s ∈ lit, s.Readable
  exposure_locked : ∀ s ∈ lit, ∀ s' ∈ lit,
    finValue s.exposure - finValue s'.exposure ≤ params.exposureTolerance
  no_dark : ∀ s ∈ lit, ¬ IsDark params s
  lit_once : litTrace params (sortedByFloat (·.stampS) lit) ≠ []
  covered : Covered params windowStart windowEnd
    ((litTrace params (sortedByFloat (·.stampS) lit)).map fun s => finValue s.stampS)

omit [LinearOrder α] [IsStrictOrderedRing α] in
lemma eq_fin_finValue {x : PyFloat α} (h : x.isFinite = true) : x = .fin (finValue x) := by
  obtain ⟨y, rfl⟩ := PyFloat.isFinite_iff.mp h
  rfl

/-- The flash verdict is reached on any samples, with a positive period or none, and "not
flashing" is a statement about a steady window. -/
theorem flashVerdict_total (lit : List (LuminanceSample α)) (windowStart windowEnd : α) :
    ∃ v, flashVerdict (FloatFormat.exact α) params lit (.fin windowStart) (.fin windowEnd) = .ok v ∧
      optionalField positive v.measuredPeriodS ∧
      (v.isFlashing = some false → Steady params windowStart windowEnd lit) := by
  have hnone : optionalField positive (none : Option (PyFloat α)) := fun x hx => by cases hx
  unfold flashVerdict
  dsimp only
  set ordered := sortedByFloat (·.stampS) lit with hordered
  by_cases hfew : ordered.length < params.minLuminanceSamples
  · rw [if_pos hfew]
    exact ⟨_, rfl, hnone, fun h => by cases h⟩
  rw [if_neg hfew]
  by_cases hreadable : ∀ s ∈ ordered, s.Readable
  swap
  · rw [if_pos hreadable]
    exact ⟨_, rfl, hnone, fun h => by cases h⟩
  rw [if_neg (not_not.mpr hreadable)]
  rw [hordered, length_sortedByFloat, not_lt] at hfew
  have hne : ordered ≠ [] := by
    intro hempty
    have hlength := length_sortedByFloat (·.stampS) lit
    have htwo := params.luminance_ge_two
    rw [← hordered, hempty, List.length_nil] at hlength
    omega
  have hexposures : ordered.map (·.exposure) =
      (ordered.map fun s => finValue s.exposure).map .fin := by
    rw [List.map_map]
    exact List.map_congr_left fun s hs => eq_fin_finValue (hreadable s hs).2.2.2
  obtain ⟨hi, hhi⟩ : ∃ m, pyMaxOf (ordered.map (·.exposure)) = .ok m :=
    exists_pyBest (by simpa using hne)
  obtain ⟨lo, hlo⟩ : ∃ m, pyMinOf (ordered.map (·.exposure)) = .ok m :=
    exists_pyBest (by simpa using hne)
  rw [hhi, hlo]
  simp only [Except.bind]
  rw [hexposures] at hhi hlo
  obtain ⟨x, rfl, -, hmax⟩ := pyMaxOf_map_fin hhi
  obtain ⟨y, rfl, -, hmin⟩ := pyMinOf_map_fin hlo
  split_ifs with hspread
  · exact ⟨_, rfl, hnone, fun h => by cases h⟩
  obtain ⟨v, hv, hperiod, hflashing⟩ := judgePhases_total params (FloatFormat.exact α)
    (binarise params none ordered) (.fin windowStart) (.fin windowEnd)
  refine ⟨v, hv, hperiod, fun h => ?_⟩
  obtain ⟨first, rest, hphases, hlit, hcovers⟩ := hflashing h
  have hnoDark : ∀ s ∈ ordered, ¬ IsDark params s := by
    intro s hs hdark
    obtain ⟨p, hp, hoff⟩ : ∃ p ∈ binarise params none ordered, p.phase = .off :=
      exists_off_of_isDark params hs hdark
    rw [hlit p hp] at hoff
    cases hoff
  have htrace := binarise_none params hnoDark
  have hstamps : (first :: rest).map (·.stamp) =
      ((litTrace params ordered).map fun s => finValue s.stampS).map .fin := by
    rw [← hphases, htrace, List.map_map, List.map_map]
    refine List.map_congr_left fun s hs => ?_
    exact eq_fin_finValue (hreadable s ((List.dropWhile_suffix _).subset hs)).1
  exact
    { enough := hfew
      readable := fun s hs => hreadable s (mem_sortedByFloat.mpr hs)
      exposure_locked := by
        intro s hs s' hs'
        rw [exact_sub_fin, PyFloat.fin_lt_fin, not_lt] at hspread
        have hle := hmax _ (List.mem_map_of_mem (mem_sortedByFloat.mpr hs))
        have hge := hmin _ (List.mem_map_of_mem (mem_sortedByFloat.mpr hs'))
        exact (sub_le_sub hle hge).trans hspread
      no_dark := fun s hs => hnoDark s (mem_sortedByFloat.mpr hs)
      lit_once := by
        intro hempty
        rw [hempty] at htrace
        rw [htrace] at hphases
        cases hphases
      covered := covered_of_coversWindow params hstamps hcovers }

end Flash

/-! ## The window -/

section Window

variable [IsStrictOrderedRing α]

/-- Reading a number never fails in exact arithmetic. -/
lemma exists_readable (v : PyVal α) : ∃ x, readable (FloatFormat.exact α) v = .ok x := by
  cases v <;> exact ⟨_, rfl⟩

/-- The latency is reported absent rather than refused. -/
lemma exists_sanitisedLatency (v : PyVal α) :
    ∃ x, sanitisedLatency (FloatFormat.exact α) v = .ok x ∧ optionalField nonNegative x := by
  obtain ⟨y, hy⟩ := exists_readable v
  unfold sanitisedLatency
  rw [hy, Except.map]
  refine ⟨_, rfl, ?_⟩
  split_ifs with hunusable
  · exact fun x hx => by cases hx
  · intro x hx
    obtain rfl := Option.some.inj hx
    simpa [finiteField, nonNegative] using hunusable

omit [LinearOrder α] [Field α] [IsStrictOrderedRing α] in
lemma sanitisedSeq_nonneg (v : PyVal α) : ∀ n ∈ sanitisedSeq v, 0 ≤ n := by
  intro n hn
  cases v with
  | int i =>
    simp only [sanitisedSeq] at hn
    split_ifs at hn with hi
    · obtain rfl := Option.some.inj hn
      exact hi
    · cases hn
  | _ => cases hn

/-- A share of a window is a ratio. -/
lemma fractionInRange_share {n m : ℕ} (h : n ≤ m) (hm : m ≠ 0) :
    fractionInRange (.fin ((n : α) / m)) := by
  have hpos : (0 : α) < m := by exact_mod_cast Nat.pos_of_ne_zero hm
  refine ⟨PyFloat.fin_le_fin.mpr (by positivity), PyFloat.fin_le_fin.mpr ?_⟩
  rw [div_le_one hpos]
  exact_mod_cast h

lemma valid_signalValidFraction (window : List (EvidenceSample α)) :
    finiteField (signalValidFraction (FloatFormat.exact α) window) ∧
      fractionInRange (signalValidFraction (FloatFormat.exact α) window) := by
  unfold signalValidFraction
  split_ifs with hempty
  · exact ⟨rfl, by simp [fractionInRange]⟩
  · refine ⟨rfl, fractionInRange_share List.countP_le_length ?_⟩
    exact mt List.eq_nil_of_length_eq_zero hempty

variable (w : SignalWindow α)

/-- The observation passes its validators whatever the window shows. -/
lemma valid_observe (args : WindowArgs α) {flash : FlashVerdict α} (evidenceReadable : Bool)
    (evWindow : List (EvidenceSample α)) {sourceStamp : PyFloat α} {latency : Option (PyFloat α)}
    (hperiod : optionalField positive flash.measuredPeriodS)
    (hstamp : sourceStamp.isFinite = true) (hlatency : optionalField nonNegative latency) :
    (w.observe (FloatFormat.exact α) args flash evidenceReadable evWindow sourceStamp
      latency).Valid := by
  have habsent : ∀ p : PyFloat α → Prop, optionalField p none := fun p x hx => by cases hx
  have hquality : ∀ n ∈ (none : Option ℤ), 0 ≤ n := fun n hn => by cases hn
  have hspan : positive (.fin w.params.windowSpanS) := not_le.mpr w.params.span_pos
  exact ⟨⟨valid_signalValidFraction evWindow, sanitisedSeq_nonneg _, hlatency, habsent _, habsent _,
    habsent _, hquality⟩, w.crossing_named, hstamp, ⟨rfl, hspan⟩, hperiod,
    Int.natCast_nonneg _, Int.natCast_nonneg _⟩

/-- Every combination of terms that makes a window green. -/
lemma of_windowState_eq_green {F : FloatFormat α} {params : SignalTemporalParams α}
    {isFlashing : Option Bool} {evidenceReadable : Bool} {window : List (EvidenceSample α)}
    (h : windowState F params isFlashing evidenceReadable window = .green) :
    evidenceReadable = true ∧ holdsMajority F params window .green = true ∧
      isFlashing = some false ∧ votes window .offOrUnlit = 0 ∧
      params.minSamples ≤ window.length ∧
      ∃ s ∈ window.getLast?, s.roiConsistent = true ∧ s.evidence = .green := by
  unfold windowState at h
  split_ifs at h with hflashing hreadable hred hgreen
  obtain ⟨hmajority, hsteady, hoff, ⟨s, hs, hroi⟩, henough, t, ht, hevidence⟩ := hgreen
  obtain rfl : s = t := Option.some.inj ((Option.mem_def.mp hs).symm.trans ht)
  exact ⟨by simpa using hreadable, hmajority, hsteady, hoff, henough, s, hs, hroi, hevidence⟩

/-- What the two sample lists show when a window is reported green. -/
structure GreenEvidence (params : SignalTemporalParams α) (windowStart windowEnd : α)
    (luminance : List (LuminanceSample α)) (evidence : List (EvidenceSample α)) : Prop where
  stamps_readable : (∀ s ∈ luminance, s.stampS.isFinite) ∧ ∀ s ∈ evidence, s.stampS.isFinite
  steady : Steady params windowStart windowEnd
    (inside (·.stampS) (.fin windowStart) (.fin windowEnd) luminance)
  majority :
    params.majorityFraction *
        ((inside (·.stampS) (.fin windowStart) (.fin windowEnd) evidence).length : α) ≤
      votes (inside (·.stampS) (.fin windowStart) (.fin windowEnd) evidence) .green
  enough : params.minSamples ≤
    (inside (·.stampS) (.fin windowStart) (.fin windowEnd) evidence).length
  no_off : ∀ s ∈ inside (·.stampS) (.fin windowStart) (.fin windowEnd) evidence,
    s.evidence ≠ .offOrUnlit
  latest_green : ∃ s ∈ inside (·.stampS) (.fin windowStart) (.fin windowEnd) evidence,
    s.evidence = .green ∧ s.roiConsistent = true ∧
      ∀ s' ∈ inside (·.stampS) (.fin windowStart) (.fin windowEnd) evidence,
        s'.stampS ≤ s.stampS

omit [IsStrictOrderedRing α] in
/-- The last sample of a sorted window has a latest stamp. -/
lemma le_of_getLast?_sortedByFloat {β : Type*} {key : β → PyFloat α} {xs : List β} {x : β}
    (hfinite : ∀ y ∈ xs, (key y).isFinite = true) (hx : x ∈ (sortedByFloat key xs).getLast?)
    {y : β} (hy : y ∈ xs) : key y ≤ key x := by
  have hsorted := pairwise_sortBy (finValue ∘ key) xs
  rw [← sortedByFloat_eq_sortBy hfinite] at hsorted
  obtain ⟨init, hinit⟩ := List.getLast?_eq_some_iff.mp (Option.mem_def.mp hx)
  have hmem : x ∈ xs := mem_sortedByFloat.mp (List.mem_of_getLast? hx)
  have hle : finValue (key y) ≤ finValue (key x) := by
    have hyin := (perm_sortedByFloat key xs).mem_iff.mpr hy
    rw [hinit, List.mem_append, List.mem_singleton] at hyin
    rw [hinit, List.pairwise_append] at hsorted
    rcases hyin with hyin | rfl
    · exact hsorted.2.2 y hyin x (List.mem_singleton_self x)
    · exact le_rfl
  rw [eq_fin_finValue (hfinite y hy), eq_fin_finValue (hfinite x hmem)]
  exact PyFloat.fin_le_fin.mpr hle

omit [Field α] [IsStrictOrderedRing α] in
lemma finite_of_inWindow {windowStart windowEnd stamp : PyFloat α}
    (h : inWindow windowStart windowEnd stamp = true) : stamp.isFinite = true := by
  simp only [inWindow, Bool.and_eq_true] at h
  exact h.1.1

omit [Field α] [IsStrictOrderedRing α] in
lemma finite_of_mem_inside {β : Type*} {stamp : β → PyFloat α} {windowStart windowEnd : PyFloat α}
    {xs : List β} {x : β} (h : x ∈ inside stamp windowStart windowEnd xs) :
    (stamp x).isFinite = true :=
  finite_of_inWindow (List.mem_filter.mp h).2

omit [Field α] [IsStrictOrderedRing α] in
/-- Votes do not depend on the order of a window. -/
lemma votes_sortedByFloat (window : List (EvidenceSample α)) (wanted : LampEvidence) :
    votes (sortedByFloat (·.stampS) window) wanted = votes window wanted :=
  (perm_sortedByFloat _ window).countP_eq _

/-- A majority in exact arithmetic. -/
lemma of_holdsMajority {params : SignalTemporalParams α} {window : List (EvidenceSample α)}
    {wanted : LampEvidence} (h : holdsMajority (FloatFormat.exact α) params window wanted = true) :
    params.majorityFraction * (window.length : α) ≤ votes window wanted := by
  unfold holdsMajority at h
  split_ifs at h with hempty
  have hpos : (0 : α) < window.length := by
    exact_mod_cast List.length_pos_of_ne_nil hempty
  have hshare : params.majorityFraction ≤ votes window wanted / window.length := by
    simpa [FloatFormat.exact] using h
  exact (le_div_iff₀ hpos).mp hshare

/-- Rate A is total, and "not flashing" is a statement about a steady window. -/
lemma rateA_total (params : SignalTemporalParams α) (luminance lit : List (LuminanceSample α))
    (windowStart windowEnd : α) :
    ∃ v, rateA (FloatFormat.exact α) params luminance lit (.fin windowStart) (.fin windowEnd) =
        .ok v ∧ optionalField positive v.measuredPeriodS ∧
      (v.isFlashing = some false →
        (∀ s ∈ luminance, s.stampS.isFinite = true) ∧ Steady params windowStart windowEnd lit) := by
  obtain ⟨v, hv, hperiod, hsteady⟩ := flashVerdict_total params lit windowStart windowEnd
  unfold rateA
  by_cases hreadable : ∀ s ∈ luminance, s.stampS.isFinite = true
  · rw [if_pos hreadable]
    exact ⟨v, hv, hperiod, fun h => ⟨hreadable, hsteady h⟩⟩
  · rw [if_neg hreadable]
    refine ⟨_, rfl, ?_, ?_⟩
    · exact fun x hx => by cases hx
    · exact fun h => by cases h

omit [Field α] [IsStrictOrderedRing α] in
/-- A window with a sample has a source stamp, and it is a number. -/
lemma exists_sourceStampOf {evWindow : List (EvidenceSample α)} {lit : List (LuminanceSample α)}
    (hne : ¬ (evWindow = [] ∧ lit = [])) (hev : ∀ s ∈ evWindow, s.stampS.isFinite = true)
    (hlit : ∀ s ∈ lit, s.stampS.isFinite = true) :
    ∃ x, sourceStampOf evWindow lit = .ok x ∧ x.isFinite = true := by
  unfold sourceStampOf
  cases hlast : evWindow.getLast? with
  | some latest => exact ⟨_, rfl, hev latest (List.mem_of_getLast? hlast)⟩
  | none =>
    have hlitNe : lit ≠ [] := fun h => hne ⟨List.getLast?_eq_none_iff.mp hlast, h⟩
    obtain ⟨xs, hxs⟩ : ∃ xs : List α, lit.map (·.stampS) = xs.map .fin := exists_map_fin (by
      simpa only [List.forall_mem_map] using hlit)
    obtain ⟨m, hm⟩ : ∃ m, pyMaxOf (lit.map (·.stampS)) = .ok m :=
      exists_pyBest (by simpa using hlitNe)
    refine ⟨m, hm, ?_⟩
    rw [hxs] at hm
    obtain ⟨x, rfl, -⟩ := pyMaxOf_map_fin hm
    rfl

/-- `evaluate` at a readable window end is total, and green is backed by the samples. -/
lemma evaluateAt_total (args : WindowArgs α) (windowEnd : α)
    (luminance : List (LuminanceSample α)) (evidence : List (EvidenceSample α)) :
    ∃ r, w.evaluateAt (FloatFormat.exact α) args (.fin windowEnd) luminance evidence = .ok r ∧
      ∀ o, r = some o → o.val.state = .green →
        GreenEvidence w.params (windowEnd - w.params.windowSpanS) windowEnd luminance evidence := by
  set windowStart := windowEnd - w.params.windowSpanS with hstart
  set lit := inside (·.stampS) (.fin windowStart) (.fin windowEnd) luminance with hlit
  set votesIn := inside (·.stampS) (.fin windowStart) (.fin windowEnd) evidence with hvotes
  have hfinite : ∀ s ∈ votesIn, s.stampS.isFinite = true := fun s hs => finite_of_mem_inside hs
  unfold SignalWindow.evaluateAt
  simp only [exact_sub_fin, ← hstart, ← hlit, ← hvotes]
  set evWindow := sortedByFloat (·.stampS) votesIn with hev
  by_cases hempty : evWindow = [] ∧ lit = []
  · exact ⟨none, if_pos hempty, fun o h => by cases h⟩
  obtain ⟨flash, hflash, hperiod, hsteady⟩ :=
    rateA_total w.params luminance lit windowStart windowEnd
  obtain ⟨sourceStamp, hsource, hsourceFinite⟩ := exists_sourceStampOf hempty
    (fun s hs => hfinite s (mem_sortedByFloat.mp hs)) (fun s hs => finite_of_mem_inside hs)
  obtain ⟨latency, hlatency, hlatencyValid⟩ := exists_sanitisedLatency args.processingLatencyS
  have hvalid := valid_observe w args (decide (∀ s ∈ evidence, s.stampS.isFinite = true)) evWindow
    hperiod hsourceFinite hlatencyValid
  rw [if_neg hempty, hflash, hsource, hlatency]
  simp only [Except.bind]
  rw [checked_of_valid hvalid]
  refine ⟨_, rfl, fun o ho hgreen => ?_⟩
  obtain rfl := Option.some.inj ho
  obtain ⟨hreadable, hmajority, hflashing, hoff, henough, s, hs, hroi, hevidence⟩ :=
    of_windowState_eq_green hgreen
  obtain ⟨hlumReadable, hsteady⟩ := hsteady hflashing
  have hcount := of_holdsMajority hmajority
  rw [hev, votes_sortedByFloat, length_sortedByFloat] at hcount
  rw [hev, length_sortedByFloat] at henough
  rw [hev, votes_sortedByFloat] at hoff
  exact
    { stamps_readable := ⟨hlumReadable, of_decide_eq_true hreadable⟩
      steady := hsteady
      majority := hcount
      enough := henough
      no_off := by
        intro s hs hdark
        have hpos : 0 < votes votesIn .offOrUnlit :=
          List.countP_pos_iff.mpr ⟨s, hs, decide_eq_true hdark⟩
        omega
      latest_green := ⟨s, mem_sortedByFloat.mp (List.mem_of_getLast? hs), hevidence, hroi,
        fun s' hs' => le_of_getLast?_sortedByFloat hfinite hs hs'⟩ }

/-- **Green soundness**: `evaluate` never raises, and a green window rests on the evidence of both
rates.  In particular every stretch of the window longer than the tolerated gap holds a luminance
sample that is not dark. -/
theorem green_rests_on_evidence (args : WindowArgs α) (luminance : List (LuminanceSample α))
    (evidence : List (EvidenceSample α)) :
    ∃ r, w.evaluate (FloatFormat.exact α) args luminance evidence = .ok r ∧
      ∀ o, r = some o → o.val.state = .green →
        ∃ windowEnd : α, readable (FloatFormat.exact α) args.windowEndS = .ok (.fin windowEnd) ∧
          GreenEvidence w.params (windowEnd - w.params.windowSpanS) windowEnd luminance evidence ∧
          ∀ a b : α, windowEnd - w.params.windowSpanS ≤ a → b ≤ windowEnd →
            w.params.maxSampleGapS < b - a →
            ∃ s ∈ luminance, ∃ t : α, s.stampS = .fin t ∧ a < t ∧ t < b ∧
              ¬ s.greenRatio ≤ .fin w.params.offThreshold := by
  obtain ⟨stop, hstop⟩ := exists_readable args.windowEndS
  unfold SignalWindow.evaluate
  rw [hstop, Except.bind]
  split_ifs with hfinite
  · obtain ⟨windowEnd, rfl⟩ := PyFloat.isFinite_iff.mp hfinite
    obtain ⟨r, hr, hgreen⟩ := evaluateAt_total w args windowEnd luminance evidence
    refine ⟨r, hr, fun o ho hstate => ⟨windowEnd, rfl, hgreen o ho hstate, ?_⟩⟩
    intro a b ha hb hlong
    have hsteady := (hgreen o ho hstate).steady
    obtain ⟨t, ht, hat, htb⟩ := exists_mem_of_isChain_step hsteady.covered ha hb hlong
    obtain ⟨s, hs, rfl⟩ := List.mem_map.mp ht
    have hlit : s ∈ inside (·.stampS) (.fin (windowEnd - w.params.windowSpanS)) (.fin windowEnd)
        luminance := mem_sortedByFloat.mp ((List.dropWhile_suffix _).subset hs)
    exact ⟨s, (List.mem_filter.mp hlit).1, _, eq_fin_finValue (hsteady.readable s hlit).1, hat, htb,
      hsteady.no_dark s hlit⟩
  · exact ⟨none, rfl, fun o h => by cases h⟩

end Window

/-! A window that is green: lit throughout, seen green twice. -/

/-- A window of one second with room for gaps of half a second. -/
def secondParams : SignalTemporalParams ℚ where
  windowSpanS := 1
  minSamples := 1
  majorityFraction := 3 / 4
  classifierRateHz := 9
  periodToleranceS := 1 / 10
  onThreshold := 1 / 2
  offThreshold := 1 / 4
  exposureTolerance := 0
  redSyncDelta := 0
  minRisingEdges := 2
  minLuminanceSamples := 2
  maxSampleGapS := 1 / 2
  span_pos := rat_one_pos
  samples_pos := nat_one_le_one
  edges_ge_two := le_rfl
  luminance_ge_two := le_rfl
  fraction_gt_half := by decide +kernel
  fraction_le_one := by decide +kernel
  rate_pos := by decide
  rate_not_aliased n h := by
    have hdouble : ((9 : ℤ) : ℚ) = ((2 * n : ℤ) : ℚ) := by
      push_cast
      rw [← h, nominalFlashPeriodS]
      norm_num
    have hodd : (9 : ℤ) = 2 * n := by exact_mod_cast hdouble
    omega
  tolerance_pos := rat_tenth_pos
  tolerance_lt := by decide +kernel
  off_nonneg := by decide +kernel
  off_lt_on := by decide +kernel
  on_le_one := rat_half_le_one
  exposure_nonneg := rat_zero_le_zero
  delta_nonneg := rat_zero_le_zero
  gap_pos := rat_half_pos

/-- A registered crossing. -/
def northCrossing : SignalWindow ℚ where
  params := secondParams
  crossingId := "north"
  crossing_named := by decide +kernel

/-- The window that ends at one second. -/
def firstSecond : WindowArgs ℚ := ⟨.int 1, .null, .null, .null⟩

/-- Two lit frames, half a second apart, in any order. -/
def litFrames : List (LuminanceSample ℚ) :=
  [⟨.fin 1, .fin 1, .fin 0, .fin 0⟩, ⟨.fin (1 / 2), .fin 1, .fin 0, .fin 0⟩]

/-- Two green frames. -/
def greenFrames : List (EvidenceSample ℚ) :=
  [⟨.fin 1, .green, true⟩, ⟨.fin (1 / 2), .green, true⟩]

/-- The observed state, for comparison. -/
def observedState {α : Type*} [Field α] [LinearOrder α]
    (r : Except PyErr (Option (Subtype (TrafficSignalObservation.Valid (α := α))))) :
    Option SignalState :=
  match r with
  | .ok (some o) => some o.val.state
  | _ => none

theorem green_rests_on_evidence_steady :
    GreenEvidence secondParams (1 - 1) 1 litFrames greenFrames := by
  obtain ⟨r, hr, hgreen⟩ := green_rests_on_evidence northCrossing firstSecond litFrames greenFrames
  have hstate : observedState
      (northCrossing.evaluate (FloatFormat.exact ℚ) firstSecond litFrames greenFrames) =
        some .green := by
    decide +kernel
  rw [hr] at hstate
  cases r with
  | none => cases hstate
  | some o =>
    obtain ⟨windowEnd, hend, hevidence, -⟩ := hgreen o rfl (Option.some.inj hstate)
    obtain rfl : 1 = windowEnd := PyFloat.fin.inj (Except.ok.inj hend)
    exact hevidence

end Perception

end MiniatureWarehouse
