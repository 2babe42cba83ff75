import MiniatureWarehouse.Framework.Runs
import MiniatureWarehouse.Framework.Values

/-!
# Sensor health

The monitor that judges the required sensor sources of a robot: freshness on the receiver's
clock, repeated content under advancing stamps, and the validity of the last observation.  The
monitor is clock-free, so it is a state machine whose inputs are the observations and whose
judgement at a time `now` is a function of the state.

The adapter that reduces a terrain payload to an observation is here as well.  The payload
contract it validates against belongs to the message library, so the parser is a parameter.
-/

namespace MiniatureWarehouse

/-- `SourceVerdict`, most severe first; only `ok` permits motion. -/
inductive SourceVerdict
  | absent
  | stale
  | frozen
  | invalid
  | ok
  deriving DecidableEq, Repr

/-- The member names, which is how a verdict crosses to the guardian. -/
def SourceVerdict.name : SourceVerdict → String
  | absent => "ABSENT"
  | stale => "STALE"
  | frozen => "FROZEN"
  | invalid => "INVALID"
  | ok => "OK"

/-- `SourceThresholds`: the limits of one source, with the bounds its constructor enforces. -/
structure SourceThresholds (α : Type*) [Field α] [LinearOrder α] where
  staleAfterS : α
  minValidFraction : α
  frozenRepeats : ℕ
  staleAfterS_pos : 0 < staleAfterS
  minValidFraction_pos : 0 < minValidFraction
  minValidFraction_le_one : minValidFraction ≤ 1
  two_le_frozenRepeats : 2 ≤ frozenRepeats

/-- `SourceObservation`: one received message, after the marshalling of its constructor. -/
structure SourceObservation (α : Type*) where
  stampS : PyFloat α
  receivedMonotonicS : PyFloat α
  validFraction : PyFloat α
  digest : Option String
  deriving DecidableEq

/-- `HealthReport`. -/
structure HealthReport where
  verdicts : Dict String SourceVerdict
  healthy : Bool
  healthEpoch : ℕ

/-- `SensorHealthMonitor`: the limits, and for each source the last observation and the run of
identical content. -/
structure SensorHealthMonitor (α : Type*) [Field α] [LinearOrder α] where
  thresholds : Dict String (SourceThresholds α)
  last : Dict String (SourceObservation α)
  runs : Dict String (Option String × ℕ)
  epoch : ℕ
  previous : Option (Dict String SourceVerdict)

namespace SensorHealthMonitor

variable {α : Type*} [Field α] [LinearOrder α]

/-- The constructor, for declared sources. -/
def init (thresholds : Dict String (SourceThresholds α)) : SensorHealthMonitor α :=
  ⟨thresholds, .empty, .empty, 0, none⟩

/-- Did the sender claim a new measurement since the previous message?  A stamp that is not
finite on either side claims nothing. -/
def stampAdvanced (previous : Option (SourceObservation α)) (obs : SourceObservation α) : Bool :=
  match previous with
  | none => false
  | some previous =>
    previous.stampS.isFinite && obs.stampS.isFinite && decide (previous.stampS < obs.stampS)

/-- `_advance_run`: the run of identical content after one more message. -/
def advanceRun (m : SensorHealthMonitor α) (source : String) (obs : SourceObservation α) :
    Option String × ℕ :=
  let (previousDigest, run) := m.runs.getD source (none, 0)
  if obs.digest = none then (previousDigest, run)
  else if previousDigest ≠ obs.digest then (obs.digest, 1)
  else (obs.digest, if stampAdvanced (m.last.get? source) obs then run + 1 else run)

/-- `observe`: record one message; an undeclared source is a wiring mistake. -/
def observe (m : SensorHealthMonitor α) (source : String) (obs : SourceObservation α) :
    Except PyErr (SensorHealthMonitor α) :=
  if m.thresholds.contains source then
    .ok { m with
      runs := m.runs.set source (m.advanceRun source obs)
      last := m.last.set source obs }
  else .error .keyError

/-- `_verdict`: the rules for one source, most severe first. -/
def verdict [IsStrictOrderedRing α] (F : FloatFormat α) (m : SensorHealthMonitor α)
    (source : String) (limits : SourceThresholds α) (now : PyFloat α) : SourceVerdict :=
  match m.last.get? source with
  | none => .absent
  | some obs =>
    let age := F.sub now obs.receivedMonotonicS
    let (digest, run) := m.runs.getD source (none, 0)
    if !(now.isFinite && obs.receivedMonotonicS.isFinite) then .stale
    else if age < .fin 0 ∨ .fin limits.staleAfterS < age then .stale
    else if digest ≠ none ∧ limits.frozenRepeats ≤ run then .frozen
    else if !obs.stampS.isFinite then .invalid
    else if ¬ (.fin 0 ≤ obs.validFraction ∧ obs.validFraction ≤ .fin 1) then .invalid
    else if obs.validFraction < .fin limits.minValidFraction then .invalid
    else .ok

/-- `evaluate`: judge every declared source; the epoch advances when the verdicts change. -/
def evaluate [IsStrictOrderedRing α] (F : FloatFormat α) (m : SensorHealthMonitor α)
    (now : PyFloat α) : SensorHealthMonitor α × HealthReport :=
  let verdicts := m.thresholds.mapValues fun source limits => m.verdict F source limits now
  let changed := match m.previous with
    | none => false
    | some previous => decide (verdicts ≠ previous)
  let epoch := if changed then m.epoch + 1 else m.epoch
  ({ m with epoch := epoch, previous := some verdicts },
    { verdicts := verdicts
      healthy := verdicts.entries.all fun e => e.2 == .ok
      healthEpoch := epoch })

/-- The monitor as a machine: an input is a message of a source, the output whether it raised. -/
def machine : Machine (SensorHealthMonitor α) (String × SourceObservation α) (Except PyErr Unit) where
  step m e :=
    match m.observe e.1 e.2 with
    | .ok m' => (m', .ok ())
    | .error err => (m, .error err)

/-- The frozen-run counter of a source, with the content it counts. -/
def frozenRun (m : SensorHealthMonitor α) (source : String) : Option String × ℕ :=
  m.runs.getD source (none, 0)

/-! ## One declared source -/

/-- Feeding one declared source changes nothing but its own two entries. -/
lemma observe_declared {m : SensorHealthMonitor α} {source : String}
    (h : m.thresholds.contains source = true) (obs : SourceObservation α) :
    (machine.step m (source, obs)).1 =
      { m with
        runs := m.runs.set source (m.advanceRun source obs)
        last := m.last.set source obs } := by
  simp [machine, observe, h]

@[simp] lemma thresholds_step (m : SensorHealthMonitor α) (e : String × SourceObservation α) :
    (machine.step m e).1.thresholds = m.thresholds := by
  by_cases h : m.thresholds.contains e.1 = true
  · have hstep := observe_declared h e.2
    rw [hstep]
  · simp [machine, observe, h]

lemma thresholds_run (m : SensorHealthMonitor α) (es : List (String × SourceObservation α)) :
    (machine.run m es).thresholds = m.thresholds := by
  induction es generalizing m with
  | nil => rfl
  | cons e es ih =>
    rw [Machine.run_cons, ih]
    exact thresholds_step m e

end SensorHealthMonitor

/-! ## The terrain payload -/

/-- The fields of a validated `TerrainCoverage` that the health judgement reads. -/
structure TerrainCoverage (α : Type*) where
  sourceStampS : PyFloat α
  validFraction : PyFloat α
  frameDigest : Option String

/-- `coverage_observation`: one payload as an observation.  A payload the contract refuses
becomes an observation without stamp, fraction or fingerprint. -/
def coverageObservation {α : Type*} (parseTerrainCoverage : String → Option (TerrainCoverage α))
    (payload : String) (receivedMonotonicS : PyFloat α) : SourceObservation α :=
  match parseTerrainCoverage payload with
  | none => ⟨.nan, receivedMonotonicS, .nan, none⟩
  | some coverage =>
    ⟨coverage.sourceStampS, receivedMonotonicS, coverage.validFraction, coverage.frameDigest⟩

end MiniatureWarehouse
