import MiniatureWarehouse.Framework.StableSort
import MiniatureWarehouse.Interfaces.Perception

/-!
# The two-rate signal window

Rate A samples the luminance of the registered region at camera rate; a hysteresis turns the
green ratio into lit and dark phases, and the phases of one window into a flash verdict.  Rate B
is the evidence of the per-frame classifier, put to a majority vote.  `evaluate` joins the two
into one observation of a crossing.

The functions the language may raise from (`max` and `min` of nothing, the median of nothing, the
constructor of the observation) return an `Except` here, so that "never raises" is a statement
about them.  A number that cannot be read is kept as `NaN`.
-/

namespace MiniatureWarehouse

namespace Perception

variable {α : Type*} [Field α] [LinearOrder α]

/-- `NOMINAL_FLASH_PERIOD_S`. -/
def nominalFlashPeriodS : α := 1 / 2

/-- `SignalTemporalParams`, with what its constructor checks. -/
structure SignalTemporalParams (α : Type*) [Field α] [LinearOrder α] where
  windowSpanS : α
  minSamples : ℕ
  majorityFraction : α
  classifierRateHz : α
  periodToleranceS : α
  onThreshold : α
  offThreshold : α
  exposureTolerance : α
  redSyncDelta : α
  minRisingEdges : ℕ
  minLuminanceSamples : ℕ
  maxSampleGapS : α
  span_pos : 0 < windowSpanS
  samples_pos : 1 ≤ minSamples
  edges_ge_two : 2 ≤ minRisingEdges
  luminance_ge_two : 2 ≤ minLuminanceSamples
  fraction_gt_half : 1 / 2 < majorityFraction
  fraction_le_one : majorityFraction ≤ 1
  rate_pos : 0 < classifierRateHz
  rate_not_aliased : ∀ n : ℤ, classifierRateHz * nominalFlashPeriodS ≠ n
  tolerance_pos : 0 < periodToleranceS
  tolerance_lt : periodToleranceS < nominalFlashPeriodS
  off_nonneg : 0 ≤ offThreshold
  off_lt_on : offThreshold < onThreshold
  on_le_one : onThreshold ≤ 1
  exposure_nonneg : 0 ≤ exposureTolerance
  delta_nonneg : 0 ≤ redSyncDelta
  gap_pos : 0 < maxSampleGapS

/-- `LuminanceSample`: one rate-A sample. -/
structure LuminanceSample (α : Type*) where
  stampS : PyFloat α
  greenRatio : PyFloat α
  redRatio : PyFloat α
  exposure : PyFloat α

/-- Every number of the sample is usable. -/
def LuminanceSample.Readable (s : LuminanceSample α) : Prop :=
  s.stampS.isFinite ∧ s.greenRatio.isFinite ∧ s.redRatio.isFinite ∧ s.exposure.isFinite

instance (s : LuminanceSample α) : Decidable s.Readable := inferInstanceAs (Decidable (_ ∧ _))

/-- `EvidenceSample`: one rate-B sample. -/
structure EvidenceSample (α : Type*) where
  stampS : PyFloat α
  evidence : LampEvidence
  roiConsistent : Bool

/-- The binarised phases of rate A. -/
inductive Phase
  | on
  | off
  deriving DecidableEq, Repr

/-- A resolved rate-A sample: `(stamp, phase, red_ratio)`. -/
structure Resolved (α : Type*) where
  stamp : PyFloat α
  phase : Phase
  red : PyFloat α

/-- `FlashVerdict`: `none` is undeterminable. -/
structure FlashVerdict (α : Type*) where
  isFlashing : Option Bool
  measuredPeriodS : Option (PyFloat α)

/-- `FlashVerdict(None, None)`. -/
def undeterminable : FlashVerdict α := ⟨none, none⟩

/-! ## Lists of floats -/

/-- `sorted(xs, key=...)` by a float: stable, comparing with `<`. -/
def sortedByFloat {β : Type*} (key : β → PyFloat α) (xs : List β) : List β :=
  xs.insertionSort fun a b => ¬ key b < key a

/-- The first element that no later one beats: `max(xs)` and `min(xs)`. -/
def pyBest (beaten : PyFloat α → PyFloat α → Prop) [DecidableRel beaten] :
    List (PyFloat α) → Except PyErr (PyFloat α)
  | [] => .error .valueError
  | x :: xs => .ok (xs.foldl (fun m y => if beaten m y then y else m) x)

/-- `max(xs)`. -/
def pyMaxOf : List (PyFloat α) → Except PyErr (PyFloat α) := pyBest fun m y => m < y

/-- `min(xs)`. -/
def pyMinOf : List (PyFloat α) → Except PyErr (PyFloat α) := pyBest fun m y => y < m

omit [Field α] [LinearOrder α] in
lemma exists_pyBest {beaten : PyFloat α → PyFloat α → Prop} [DecidableRel beaten]
    {xs : List (PyFloat α)} (h : xs ≠ []) : ∃ m, pyBest beaten xs = .ok m := by
  obtain ⟨x, xs, rfl⟩ := List.exists_cons_of_ne_nil h
  exact ⟨_, rfl⟩

/-- A comparison of floats that is a strict order on the numbers. -/
structure StrictOn (beaten : PyFloat α → PyFloat α → Prop) (r : α → α → Prop) : Prop where
  fin : ∀ x y, beaten (.fin x) (.fin y) ↔ r x y
  irrefl : ∀ x, ¬ r x x
  asymm : ∀ x y, r x y → ¬ r y x
  trans : ∀ x y z, ¬ r x y → ¬ r y z → ¬ r x z
  eq : ∀ x y, ¬ r x y → ¬ r y x → x = y

omit [Field α] in
lemma strictOn_lt : StrictOn (fun m y : PyFloat α => m < y) (· < ·) where
  fin _ _ := PyFloat.fin_lt_fin
  irrefl := lt_irrefl
  asymm _ _ := lt_asymm
  trans _ _ _ hxy hyz := not_lt.mpr ((not_lt.mp hyz).trans (not_lt.mp hxy))
  eq _ _ hxy hyx := le_antisymm (not_lt.mp hyx) (not_lt.mp hxy)

omit [Field α] in
lemma strictOn_gt : StrictOn (fun m y : PyFloat α => y < m) (fun x y => y < x) where
  fin _ _ := PyFloat.fin_lt_fin
  irrefl := lt_irrefl
  asymm _ _ := lt_asymm
  trans _ _ _ hxy hyz := not_lt.mpr ((not_lt.mp hxy).trans (not_lt.mp hyz))
  eq _ _ hxy hyx := le_antisymm (not_lt.mp hxy) (not_lt.mp hyx)

omit [Field α] [LinearOrder α] in
/-- Of several numbers the best one is a number that none of them beats. -/
lemma pyBest_map_fin {beaten : PyFloat α → PyFloat α → Prop} [DecidableRel beaten]
    {r : α → α → Prop} (hr : StrictOn beaten r) {xs : List α} {m : PyFloat α}
    (h : pyBest beaten (xs.map .fin) = .ok m) : ∃ x, m = .fin x ∧ x ∈ xs ∧ ∀ y ∈ xs, ¬ r x y := by
  cases xs with
  | nil => cases h
  | cons x xs =>
    rw [List.map_cons, pyBest, Except.ok.injEq] at h
    subst h
    induction xs generalizing x with
    | nil => exact ⟨x, rfl, List.mem_singleton_self x, by simp [hr.irrefl]⟩
    | cons y ys ih =>
      rw [List.map_cons, List.foldl_cons]
      by_cases hxy : r x y
      · rw [if_pos ((hr.fin x y).mpr hxy)]
        obtain ⟨m, hm, hmem, hbest⟩ := ih y
        refine ⟨m, hm, List.mem_cons_of_mem x hmem, ?_⟩
        rw [List.forall_mem_cons]
        exact ⟨hr.trans m y x (hbest y List.mem_cons_self) (hr.asymm x y hxy), hbest⟩
      · rw [if_neg (mt (hr.fin x y).mp hxy)]
        obtain ⟨m, hm, hmem, hbest⟩ := ih x
        rw [List.forall_mem_cons] at hbest
        refine ⟨m, hm, ?_, ?_⟩
        · rcases List.mem_cons.mp hmem with rfl | hmem
          · exact List.mem_cons_self
          · exact List.mem_cons_of_mem x (List.mem_cons_of_mem y hmem)
        · rw [List.forall_mem_cons, List.forall_mem_cons]
          exact ⟨hbest.1, hr.trans m x y hbest.1 hxy, hbest.2⟩

omit [Field α] in
lemma pyMaxOf_map_fin {xs : List α} {m : PyFloat α} (h : pyMaxOf (xs.map .fin) = .ok m) :
    ∃ x, m = .fin x ∧ x ∈ xs ∧ ∀ y ∈ xs, y ≤ x := by
  simpa only [not_lt] using pyBest_map_fin strictOn_lt h

omit [Field α] in
lemma pyMinOf_map_fin {xs : List α} {m : PyFloat α} (h : pyMinOf (xs.map .fin) = .ok m) :
    ∃ x, m = .fin x ∧ x ∈ xs ∧ ∀ y ∈ xs, x ≤ y := by
  simpa only [not_lt] using pyBest_map_fin strictOn_gt h

omit [Field α] [LinearOrder α] in
/-- A list of finite floats is a list of numbers. -/
lemma exists_map_fin {xs : List (PyFloat α)} (h : ∀ x ∈ xs, x.isFinite) :
    ∃ ys : List α, xs = ys.map .fin := by
  induction xs with
  | nil => exact ⟨[], rfl⟩
  | cons x xs ih =>
    rw [List.forall_mem_cons] at h
    obtain ⟨y, rfl⟩ := PyFloat.isFinite_iff.mp h.1
    obtain ⟨ys, rfl⟩ := ih h.2
    exact ⟨y :: ys, rfl⟩

/-- The number in a float, and zero for a float without one. -/
def finValue : PyFloat α → α
  | .fin x => x
  | _ => 0

omit [Field α] in
lemma perm_sortedByFloat {β : Type*} (key : β → PyFloat α) (xs : List β) :
    (sortedByFloat key xs).Perm xs := List.perm_insertionSort _ xs

omit [Field α] in
@[simp] lemma mem_sortedByFloat {β : Type*} {key : β → PyFloat α} {xs : List β} {x : β} :
    x ∈ sortedByFloat key xs ↔ x ∈ xs := (perm_sortedByFloat key xs).mem_iff

omit [Field α] in
@[simp] lemma length_sortedByFloat {β : Type*} (key : β → PyFloat α) (xs : List β) :
    (sortedByFloat key xs).length = xs.length := (perm_sortedByFloat key xs).length_eq

/-- Finite keys are sorted as the numbers they are. -/
lemma sortedByFloat_eq_sortBy {β : Type*} {key : β → PyFloat α} {xs : List β}
    (h : ∀ x ∈ xs, (key x).isFinite) : sortedByFloat key xs = sortBy (finValue ∘ key) xs := by
  have hagree : ∀ x ∈ xs, ∀ y ∈ xs,
      ¬ key y < key x ↔ (finValue ∘ key) (id x) ≤ (finValue ∘ key) (id y) := by
    intro x hx y hy
    obtain ⟨a, ha⟩ := PyFloat.isFinite_iff.mp (h x hx)
    obtain ⟨b, hb⟩ := PyFloat.isFinite_iff.mp (h y hy)
    simp [ha, hb, finValue]
  have hsorted := List.map_insertionSort (r := fun x y => ¬ key y < key x)
    (s := fun x y => (finValue ∘ key) x ≤ (finValue ∘ key) y) id xs hagree
  rwa [List.map_id, List.map_id] at hsorted

section Arithmetic

variable [IsStrictOrderedRing α] (F : FloatFormat α)

/-- `median(xs)`: the middle of the sorted list, or the mean of its two middle elements. -/
def median (xs : List (PyFloat α)) : Except PyErr (PyFloat α) :=
  let data := sortedByFloat id xs
  let n := data.length
  if n = 0 then .error .valueError
  else if n % 2 = 1 then .ok (data.getD (n / 2) .nan)
  else .ok (F.div (F.add (data.getD (n / 2 - 1) .nan) (data.getD (n / 2) .nan)) (.fin 2))

/-- `sum(xs) / len(xs)`. -/
def mean (xs : List (PyFloat α)) : PyFloat α :=
  F.div (xs.foldl F.add (.fin 0)) (F.round xs.length)

/-- `later - earlier` for the adjacent elements of a list. -/
def gaps : List (PyFloat α) → List (PyFloat α)
  | a :: b :: rest => F.sub b a :: gaps (b :: rest)
  | _ => []

end Arithmetic

/-! ## Rate A -/

section Flash

variable [IsStrictOrderedRing α] (F : FloatFormat α) (params : SignalTemporalParams α)

omit [IsStrictOrderedRing α] in
/-- The phase after a sample: between the two thresholds the previous one is held. -/
def nextPhase (phase : Option Phase) (sample : LuminanceSample α) : Option Phase :=
  if .fin params.onThreshold ≤ sample.greenRatio then some .on
  else if sample.greenRatio ≤ .fin params.offThreshold then some .off
  else phase

omit [IsStrictOrderedRing α] in
/-- `_binarise`: the samples before the first resolved one have no phase and are dropped. -/
def binarise (phase : Option Phase) : List (LuminanceSample α) → List (Resolved α)
  | [] => []
  | s :: ss =>
    match nextPhase params phase s with
    | none => binarise none ss
    | some p => ⟨s.stampS, p, s.redRatio⟩ :: binarise (some p) ss

/-- `_covers_window` for a trace that is not empty: no hole at the window start, between adjacent
samples or at the window end. -/
def coversWindow (first : Resolved α) (rest : List (Resolved α))
    (windowStart windowEnd : PyFloat α) :
    Bool :=
  let stamps := (first :: rest).map (·.stamp)
  let last := (rest.getLastD first).stamp
  windowStart.isFinite && windowEnd.isFinite &&
    !(decide (.fin params.maxSampleGapS < F.sub first.stamp windowStart) ||
      decide (.fin params.maxSampleGapS < F.sub windowEnd last)) &&
    (gaps F stamps).all fun g => g ≤ .fin params.maxSampleGapS

omit [IsStrictOrderedRing α] in
/-- The stamps of the rising edges. -/
def risingEdges : List (Resolved α) → List (PyFloat α)
  | a :: b :: rest =>
    if a.phase = .off ∧ b.phase = .on then b.stamp :: risingEdges (b :: rest)
    else risingEdges (b :: rest)
  | _ => []

/-- `_red_rises_with_green`. -/
def redRisesWithGreen (phases : List (Resolved α)) : Bool :=
  let lit := (phases.filter fun p => p.phase = .on).map (·.red)
  let dark := (phases.filter fun p => p.phase = .off).map (·.red)
  if lit = [] ∨ dark = [] then false
  else .fin params.redSyncDelta < F.sub (mean F lit) (mean F dark)

/-- The verdict on an alternating trace: a blink at the statutory rate, or a period that is
reported without one. -/
def judgeAlternation (phases : List (Resolved α)) : Except PyErr (FlashVerdict α) :=
  let edges := risingEdges phases
  if edges.length < params.minRisingEdges then .ok undeterminable
  else
    (median F (gaps F edges)).map fun period =>
      if !period.isFinite || decide (period ≤ .fin 0) then undeterminable
      else if .fin params.periodToleranceS < (F.sub period (.fin nominalFlashPeriodS)).abs then
        ⟨none, some period⟩
      else if redRisesWithGreen F params phases then ⟨none, some period⟩
      else ⟨some true, some period⟩

/-- The verdict on a resolved trace.  Continuously lit is the one positive "not blinking", and
only when the trace covers the window. -/
def judgePhases (phases : List (Resolved α)) (windowStart windowEnd : PyFloat α) :
    Except PyErr (FlashVerdict α) :=
  match phases with
  | [] => .ok undeterminable
  | first :: rest =>
    if ∀ p ∈ first :: rest, p.phase = .on then
      .ok (if coversWindow F params first rest windowStart windowEnd then ⟨some false, none⟩
        else undeterminable)
    else if ∀ p ∈ first :: rest, p.phase ≠ .on then .ok undeterminable
    else judgeAlternation F params (first :: rest)

/-- `FlashDetector.verdict`: one unreadable number voids the whole window, and so does an exposure
that was not locked. -/
def flashVerdict (samples : List (LuminanceSample α)) (windowStart windowEnd : PyFloat α) :
    Except PyErr (FlashVerdict α) :=
  let ordered := sortedByFloat (·.stampS) samples
  if ordered.length < params.minLuminanceSamples then .ok undeterminable
  else if ¬ ∀ s ∈ ordered, s.Readable then .ok undeterminable
  else
    (pyMaxOf (ordered.map (·.exposure))).bind fun hi =>
      (pyMinOf (ordered.map (·.exposure))).bind fun lo =>
        if .fin params.exposureTolerance < F.sub hi lo then .ok undeterminable
        else judgePhases F params (binarise params none ordered) windowStart windowEnd

end Flash

/-! ## Rate B -/

section Evidence

variable [IsStrictOrderedRing α] (F : FloatFormat α) (params : SignalTemporalParams α)

omit [IsStrictOrderedRing α] in
/-- The samples of a window with one class of evidence. -/
def votes (window : List (EvidenceSample α)) (wanted : LampEvidence) : ℕ :=
  window.countP fun s => s.evidence = wanted

/-- `_holds_majority`: a vote over nothing concludes nothing. -/
def holdsMajority (window : List (EvidenceSample α)) (wanted : LampEvidence) : Bool :=
  if window = [] then false
  else .fin params.majorityFraction ≤ F.round (votes window wanted / window.length)

/-- `_valid_fraction`: the share of the samples that show something. -/
def signalValidFraction (window : List (EvidenceSample α)) : PyFloat α :=
  if window = [] then .fin 0
  else F.round ((window.countP fun s => s.evidence ≠ .notVisible : ℕ) / window.length)

/-- The state decision, in its order. -/
def windowState (isFlashing : Option Bool) (evidenceReadable : Bool)
    (window : List (EvidenceSample α)) : SignalState :=
  if isFlashing = some true then .greenFlashing
  else if !evidenceReadable then .unknown
  else if holdsMajority F params window .red then .red
  else if holdsMajority F params window .green ∧ isFlashing = some false ∧
      votes window .offOrUnlit = 0 ∧ (∃ s ∈ window.getLast?, s.roiConsistent) ∧
      params.minSamples ≤ window.length ∧ (∃ s ∈ window.getLast?, s.evidence = .green) then .green
  else .unknown

end Evidence

/-! ## The window -/

section Window

variable [IsStrictOrderedRing α] (F : FloatFormat α)

/-- `_readable`: a number as a float, and anything else as `NaN`. -/
def readable (v : PyVal α) : Except PyErr (PyFloat α) :=
  match v with
  | .int _ | .float _ => v.toFloat F
  | _ => .ok .nan

/-- `_sanitised_seq`. -/
def sanitisedSeq : PyVal α → Option ℤ
  | .int n => if 0 ≤ n then some n else none
  | _ => none

/-- `_sanitised_latency`. -/
def sanitisedLatency (v : PyVal α) : Except PyErr (Option (PyFloat α)) :=
  (readable F v).map fun x => if !x.isFinite || decide (x < .fin 0) then none else some x

omit [IsStrictOrderedRing α] in
/-- A digest that is a text is passed through. -/
def sanitisedDigest : PyVal α → Option String
  | .str s => some s
  | _ => none

/-- `SignalWindow`: the parameters and the registered crossing. -/
structure SignalWindow (α : Type*) [Field α] [LinearOrder α] where
  params : SignalTemporalParams α
  crossingId : String
  crossing_named : nonEmptyText crossingId

/-- The arguments of `evaluate` beside the two sample lists. -/
structure WindowArgs (α : Type*) where
  windowEndS : PyVal α
  frameDigest : PyVal α
  deviceFrameSeq : PyVal α
  processingLatencyS : PyVal α

omit [IsStrictOrderedRing α] in
/-- A stamp inside the window, which is open at its start. -/
def inWindow (windowStart windowEnd stamp : PyFloat α) : Bool :=
  stamp.isFinite && decide (windowStart < stamp) && decide (stamp ≤ windowEnd)

omit [IsStrictOrderedRing α] in
/-- The samples of a list that lie inside the window. -/
def inside {β : Type*} (stamp : β → PyFloat α) (windowStart windowEnd : PyFloat α) (xs : List β) :
    List β :=
  xs.filter fun x => inWindow windowStart windowEnd (stamp x)

/-- The verdict of rate A, void as soon as one of its stamps cannot be read. -/
def rateA (params : SignalTemporalParams α) (luminance litWindow : List (LuminanceSample α))
    (windowStart windowEnd : PyFloat α) : Except PyErr (FlashVerdict α) :=
  if ∀ s ∈ luminance, s.stampS.isFinite then flashVerdict F params litWindow windowStart windowEnd
  else .ok undeterminable

omit [IsStrictOrderedRing α] in
/-- The latest measurement time: that of the last evidence, or else of the luminance samples. -/
def sourceStampOf (evWindow : List (EvidenceSample α)) (litWindow : List (LuminanceSample α)) :
    Except PyErr (PyFloat α) :=
  match evWindow.getLast? with
  | some latest => .ok latest.stampS
  | none => pyMaxOf (litWindow.map (·.stampS))

namespace SignalWindow

variable (w : SignalWindow α)

/-- The observation `evaluate` builds from the flash verdict and the two windows. -/
def observe (args : WindowArgs α) (flash : FlashVerdict α) (evidenceReadable : Bool)
    (evWindow : List (EvidenceSample α)) (sourceStamp : PyFloat α)
    (latency : Option (PyFloat α)) : TrafficSignalObservation α where
  crossingId := w.crossingId
  sourceStampS := sourceStamp
  windowSpanS := .fin w.params.windowSpanS
  sampleCount := evWindow.length
  state := windowState F w.params flash.isFlashing evidenceReadable evWindow
  isFlashing := flash.isFlashing
  measuredPeriodS := flash.measuredPeriodS
  offPhaseCount := votes evWindow .offOrUnlit
  roiConsistent := evWindow.getLast?.elim false (·.roiConsistent)
  quality :=
    { validFraction := signalValidFraction F evWindow
      frameDigest := sanitisedDigest args.frameDigest
      deviceFrameSeq := sanitisedSeq args.deviceFrameSeq
      processingLatencyS := latency
      groundPlaneTiltRad := none
      groundPlaneOffsetM := none
      groundInlierFraction := none
      groundFromPrior := none
      groundRejectedCandidates := none }

/-- `evaluate` for a window end that could be read. -/
def evaluateAt (args : WindowArgs α) (windowEnd : PyFloat α)
    (luminance : List (LuminanceSample α)) (evidence : List (EvidenceSample α)) :
    Except PyErr (Option (Subtype (TrafficSignalObservation.Valid (α := α)))) :=
  let windowStart := F.sub windowEnd (.fin w.params.windowSpanS)
  let litWindow := inside (·.stampS) windowStart windowEnd luminance
  let evWindow := sortedByFloat (·.stampS) (inside (·.stampS) windowStart windowEnd evidence)
  if evWindow = [] ∧ litWindow = [] then .ok none
  else
    (rateA F w.params luminance litWindow windowStart windowEnd).bind fun flash =>
    (sourceStampOf evWindow litWindow).bind fun sourceStamp =>
    (sanitisedLatency F args.processingLatencyS).bind fun latency =>
    (checked TrafficSignalObservation.Valid
      (w.observe F args flash (decide (∀ s ∈ evidence, s.stampS.isFinite)) evWindow sourceStamp
        latency)).map some

/-- `evaluate`: nothing is observed when the window end cannot be read, or when the window holds
no sample. -/
def evaluate (args : WindowArgs α) (luminance : List (LuminanceSample α))
    (evidence : List (EvidenceSample α)) :
    Except PyErr (Option (Subtype (TrafficSignalObservation.Valid (α := α)))) :=
  (readable F args.windowEndS).bind fun windowEnd =>
    if windowEnd.isFinite then w.evaluateAt F args windowEnd luminance evidence else .ok none

end SignalWindow

end Window

end Perception

end MiniatureWarehouse
