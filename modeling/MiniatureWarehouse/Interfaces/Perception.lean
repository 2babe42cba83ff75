import MiniatureWarehouse.Framework.Text
import MiniatureWarehouse.Framework.Values

/-!
# The perception contracts

The output models of `warehouse_interfaces.perception` that the terrain and the traffic-signal
observers fill in.  A model refuses every value that is not finite (`allow_inf_nan=False`) and
runs its field validators; a refusal is a `ValueError`.  A payload is therefore a record together
with the fact that it passed: an illegal one cannot be built.
-/

namespace MiniatureWarehouse

namespace Perception

/-- The terrain verdicts. -/
inductive TerrainState
  | floorConfirmed
  | dropDetected
  | unknown
  deriving DecidableEq, Repr

/-- The states of a pedestrian signal. -/
inductive SignalState
  | green
  | greenFlashing
  | red
  | unknown
  deriving DecidableEq, Repr

/-- The evidence classes of one frame. -/
inductive LampEvidence
  | red
  | green
  | greenFlashing
  | offOrUnlit
  | notVisible
  deriving DecidableEq, Repr

variable {α : Type*} [Field α] [LinearOrder α]

/-- A finite float of the field. -/
def finiteField (a : PyFloat α) : Prop := a.isFinite = true

instance (a : PyFloat α) : Decidable (finiteField a) := inferInstanceAs (Decidable (_ = _))

/-- An optional field: absent, or finite and accepted by its validator. -/
def optionalField (p : PyFloat α → Prop) (a : Option (PyFloat α)) : Prop :=
  ∀ x ∈ a, finiteField x ∧ p x

instance (p : PyFloat α → Prop) [DecidablePred p] (a : Option (PyFloat α)) :
    Decidable (optionalField p a) :=
  inferInstanceAs (Decidable (∀ x ∈ a, finiteField x ∧ p x))

/-- `_fraction_in_range`: a ratio. -/
def fractionInRange (a : PyFloat α) : Prop := .fin 0 ≤ a ∧ a ≤ .fin 1

instance (a : PyFloat α) : Decidable (fractionInRange a) :=
  inferInstanceAs (Decidable (_ ∧ _))

/-- `_non_negative` and its namesakes: not below zero. -/
def nonNegative (a : PyFloat α) : Prop := ¬ a < .fin 0

instance (a : PyFloat α) : Decidable (nonNegative a) := inferInstanceAs (Decidable (¬ _))

/-- `_period_positive` and `_window_positive`: above zero. -/
def positive (a : PyFloat α) : Prop := ¬ a ≤ .fin 0

instance (a : PyFloat α) : Decidable (positive a) := inferInstanceAs (Decidable (¬ _))

/-- A text that names something: `value.strip()` is not empty. -/
def nonEmptyText (s : String) : Prop := Text.strip s.toList ≠ []

instance (s : String) : Decidable (nonEmptyText s) := inferInstanceAs (Decidable (_ ≠ _))

/-- What the producer reports about its own observation. -/
structure ObservationQuality (α : Type*) where
  validFraction : PyFloat α
  frameDigest : Option String
  deviceFrameSeq : Option ℤ
  processingLatencyS : Option (PyFloat α)
  groundPlaneTiltRad : Option (PyFloat α)
  groundPlaneOffsetM : Option (PyFloat α)
  groundInlierFraction : Option (PyFloat α)
  groundFromPrior : Option Bool
  groundRejectedCandidates : Option ℤ

/-- The validators of the quality report. -/
def ObservationQuality.Valid (q : ObservationQuality α) : Prop :=
  (finiteField q.validFraction ∧ fractionInRange q.validFraction) ∧
    (∀ n ∈ q.deviceFrameSeq, 0 ≤ n) ∧
    optionalField nonNegative q.processingLatencyS ∧
    optionalField nonNegative q.groundPlaneTiltRad ∧
    optionalField (fun _ => True) q.groundPlaneOffsetM ∧
    optionalField fractionInRange q.groundInlierFraction ∧
    (∀ n ∈ q.groundRejectedCandidates, 0 ≤ n)

instance (q : ObservationQuality α) : Decidable q.Valid :=
  inferInstanceAs (Decidable (_ ∧ _))

/-- `TerrainCoverage`: what the terrain observer can say about the corridor. -/
structure TerrainCoverage (α : Type*) where
  sourceStampS : PyFloat α
  reference : String
  state : TerrainState
  confirmedDistanceM : Option (PyFloat α)
  nearestDropDistanceM : Option (PyFloat α)
  stepHeightM : Option (PyFloat α)
  slope : Option (PyFloat α)
  roughnessM : Option (PyFloat α)
  estimateErrorM : Option (PyFloat α)
  quality : ObservationQuality α

/-- The validators of the coverage, those of its quality report included. -/
def TerrainCoverage.Valid (c : TerrainCoverage α) : Prop :=
  c.quality.Valid ∧ finiteField c.sourceStampS ∧ nonEmptyText c.reference ∧
    optionalField nonNegative c.confirmedDistanceM ∧
    optionalField nonNegative c.nearestDropDistanceM ∧
    optionalField (fun _ => True) c.stepHeightM ∧
    optionalField (fun _ => True) c.slope ∧
    optionalField nonNegative c.roughnessM ∧
    optionalField nonNegative c.estimateErrorM

instance (c : TerrainCoverage α) : Decidable c.Valid :=
  inferInstanceAs (Decidable (_ ∧ _))

/-- `TrafficSignalObservation`: the windowed observation of one crossing. -/
structure TrafficSignalObservation (α : Type*) where
  crossingId : String
  sourceStampS : PyFloat α
  windowSpanS : PyFloat α
  sampleCount : ℤ
  state : SignalState
  isFlashing : Option Bool
  measuredPeriodS : Option (PyFloat α)
  offPhaseCount : ℤ
  roiConsistent : Bool
  quality : ObservationQuality α

/-- The validators of the signal observation, those of its quality report included. -/
def TrafficSignalObservation.Valid (o : TrafficSignalObservation α) : Prop :=
  o.quality.Valid ∧ nonEmptyText o.crossingId ∧ finiteField o.sourceStampS ∧
    (finiteField o.windowSpanS ∧ positive o.windowSpanS) ∧
    optionalField positive o.measuredPeriodS ∧
    0 ≤ o.sampleCount ∧ 0 ≤ o.offPhaseCount

instance (o : TrafficSignalObservation α) : Decidable o.Valid :=
  inferInstanceAs (Decidable (_ ∧ _))

/-- Building a model: the record, when it passes its validators. -/
def checked {β : Type*} (p : β → Prop) [DecidablePred p] (b : β) : Except PyErr (Subtype p) :=
  if h : p b then .ok ⟨b, h⟩ else .error .valueError

variable {β : Type*} {p : β → Prop} [DecidablePred p]

lemma checked_of_valid {b : β} (h : p b) : checked p b = .ok ⟨b, h⟩ := dif_pos h

lemma val_of_checked_eq_ok {b : β} {c : Subtype p} (h : checked p b = .ok c) : c.val = b := by
  unfold checked at h
  split_ifs at h with hb
  exact congrArg Subtype.val (Except.ok.inj h).symm

end Perception

end MiniatureWarehouse
