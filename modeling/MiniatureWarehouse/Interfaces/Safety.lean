import MiniatureWarehouse.Framework.Values

/-!
# The shared safety constants and checks

The speed cap, the battery thresholds and the battery normalisation of
`warehouse_interfaces.safety`, the one place the driver, the policy gate and the emergency
guardian read them from.
-/

namespace MiniatureWarehouse

variable {α : Type*} [Field α] [LinearOrder α] [IsStrictOrderedRing α]

/-- `MAX_LINEAR_VELOCITY`, the literal 0.3 as the format holds it. -/
def maxLinearVelocity (F : FloatFormat α) : PyFloat α := F.round (3 / 10)

/-- `IDLE_SPEED_EPS`, the literal 0.01 as the format holds it: a robot at most this fast is idle. -/
def idleSpeedEps (F : FloatFormat α) : PyFloat α := F.round (1 / 100)

/-- `BATTERY_CRITICAL_PCT`. -/
def batteryCriticalPct : α := 10

/-- `BATTERY_LOW_PCT`. -/
def batteryLowPct : α := 20

/-- `battery_allows_new_task`: no new task at or below the low threshold. -/
def batteryAllowsNewTask (pct : PyFloat α) : Prop := .fin batteryLowPct < pct

/-- `battery_is_critical`: at or below the critical threshold. -/
def batteryIsCritical (pct : PyFloat α) : Prop := pct ≤ .fin batteryCriticalPct

instance (pct : PyFloat α) : Decidable (batteryAllowsNewTask pct) :=
  inferInstanceAs (Decidable (_ < _))

instance (pct : PyFloat α) : Decidable (batteryIsCritical pct) :=
  inferInstanceAs (Decidable (_ ≤ _))

/-- The two values of `BATTERY_PERCENTAGE_SCALES`. -/
inductive BatteryScale
  | percent
  | fraction
  deriving DecidableEq, Repr

section Rounding

variable [FloorRing α]

/-- `round(x)` of a float: to the nearest integer, halves to the even one.  A value that is not
finite has no integer to round to. -/
def pyRound : PyFloat α → Except PyErr ℤ
  | .fin x =>
    let n := ⌊x⌋
    if x - n < 1 / 2 then .ok n
    else if 1 / 2 < x - n then .ok (n + 1)
    else if n % 2 = 0 then .ok n else .ok (n + 1)
  | .nan => .error .valueError
  | .posInf | .negInf => .error .overflowError

/-- `normalize_battery_percent` under a validated scale.  A reading that is not finite is
refused with a `ValueError`; a finite one whose scaled value overflows reaches `round` as an
infinity, which raises an `OverflowError` instead. -/
def normalizeBatteryPercent (F : FloatFormat α) (raw : PyFloat α) (scale : BatteryScale) :
    Except PyErr ℤ :=
  if raw.isFinite then
    let scaled := match scale with
      | .fraction => F.mul raw (.fin 100)
      | .percent => raw
    (pyRound scaled).map fun n => max 0 (min 100 n)
  else .error .valueError

/-- A normalised battery reading is a percentage. -/
lemma normalizeBatteryPercent_mem {F : FloatFormat α} {raw : PyFloat α} {scale : BatteryScale}
    {n : ℤ} (h : normalizeBatteryPercent F raw scale = .ok n) : 0 ≤ n ∧ n ≤ 100 := by
  simp only [normalizeBatteryPercent] at h
  split_ifs at h
  obtain ⟨m, -, rfl⟩ := exceptMap_eq_ok.mp h
  omega

end Rounding

end MiniatureWarehouse
