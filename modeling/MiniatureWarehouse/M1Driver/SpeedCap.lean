import MiniatureWarehouse.Framework.RealMath
import MiniatureWarehouse.Framework.Runs
import MiniatureWarehouse.M1Driver.DriverCore

/-!
# The speed cap of the driver

What the command path can put on the wire, over exact real arithmetic.  The lateral mask, the
clamp and the wheel scale are composed in this order, so the vector that leaves the core,
multiplied back by the scale, is the clamped one: it is never longer than the cap and never
points away from the command.

A tick puts no vector on the wire at all, and brakes whenever the last command is too old or the
overlay blocks.
-/

namespace MiniatureWarehouse

namespace M1Driver

/-! ## The clamp -/

section Clamp

/-- The planar length of a vector. -/
noncomputable def planarNorm (x y : ℝ) : ℝ := Real.sqrt (x ^ 2 + y ^ 2)

/-- Every exit of the scaling is a multiple of the vector, within the ceiling: each one is
either the stop or guarded by the length it returns. -/
lemma scaleToMagnitude_spec (x y : ℝ) {cap : ℝ} (hcap : 0 < cap) :
    ∃ s, 0 ≤ s ∧ planarNorm (x * s) (y * s) ≤ cap ∧
      scaleToMagnitude (FloatFormat.exact ℝ) MathLib.real (.fin x) (.fin y) (.fin cap) =
        (.fin (x * s), .fin (y * s)) := by
  have hstop : ∃ s, 0 ≤ s ∧ planarNorm (x * s) (y * s) ≤ cap ∧
      ((.fin 0, .fin 0) : PyFloat ℝ × PyFloat ℝ) = (.fin (x * s), .fin (y * s)) := by
    refine ⟨0, le_rfl, ?_, by simp⟩
    simp [planarNorm, hcap.le]
  have hpositive : decide (cap ≤ 0) = false := decide_eq_false (not_le.mpr hcap)
  unfold scaleToMagnitude
  simp only [PyFloat.isFinite_fin, Bool.and_self, Bool.not_true, Bool.false_eq_true, if_false,
    PyFloat.fin_le_fin, hpositive, Bool.or_self, hypot_real_fin, exact_div_fin, exact_mul_fin,
    PyFloat.fin_lt_fin]
  by_cases hwithin : Real.sqrt (x ^ 2 + y ^ 2) ≤ cap
  · rw [if_pos hwithin]
    exact ⟨1, zero_le_one, by simpa [planarNorm] using hwithin, by simp⟩
  · rw [if_neg hwithin]
    have hscale : 0 ≤ cap / Real.sqrt (x ^ 2 + y ^ 2) := div_nonneg hcap.le (Real.sqrt_nonneg _)
    set scale := cap / Real.sqrt (x ^ 2 + y ^ 2)
    split_ifs with hover hstill
    · exact hstop
    · -- the repair multiplies both components by one more factor
      have hrepair : 0 ≤ cap / Real.sqrt ((x * scale) ^ 2 + (y * scale) ^ 2) :=
        div_nonneg hcap.le (Real.sqrt_nonneg _)
      refine ⟨scale * (cap / Real.sqrt ((x * scale) ^ 2 + (y * scale) ^ 2)),
        mul_nonneg hscale hrepair, ?_, by rw [← mul_assoc, ← mul_assoc]⟩
      rw [← mul_assoc, ← mul_assoc]
      exact not_lt.mp hstill
    · exact ⟨scale, hscale, not_lt.mp hover, rfl⟩

/-- A finite command is scaled down, its turn rate untouched. -/
lemma clampBodyVelocity_fin (x y w : ℝ) :
    ∃ s, 0 ≤ s ∧ planarNorm (x * s) (y * s) ≤ 3 / 10 ∧
      clampBodyVelocity (FloatFormat.exact ℝ) MathLib.real (.fin x) (.fin y) (.fin w) =
        (.fin (x * s), .fin (y * s), .fin w) := by
  have hcap : (0 : ℝ) < 3 / 10 := by norm_num
  obtain ⟨s, hs, hnorm, heq⟩ := scaleToMagnitude_spec x y hcap
  refine ⟨s, hs, hnorm, ?_⟩
  have hmax : maxLinearVelocity (FloatFormat.exact ℝ) = .fin (3 / 10) := rfl
  unfold clampBodyVelocity
  rw [hmax, heq]
  rfl

/-- A component that is not finite stops the whole command. -/
lemma clampBodyVelocity_nonfinite {α : Type*} [Field α] [LinearOrder α] [IsStrictOrderedRing α]
    (F : FloatFormat α) (L : MathLib α) {vx vy wz : PyFloat α}
    (h : (vx.isFinite && vy.isFinite && wz.isFinite) = false) :
    clampBodyVelocity F L vx vy wz = (.fin 0, .fin 0, .fin 0) := by
  unfold clampBodyVelocity
  rw [h]
  rfl

end Clamp

/-! ## The wire scales -/

section Scales

variable {α : Type*} [Field α] [LinearOrder α]

omit [Field α] in
/-- A scale without an error is the configured number, and it lies in its range. -/
lemma validatedScale_ok {value : PyFloat α} {lo hi : α} {name : String}
    (h : (validatedScale value lo hi name).2 = none) :
    ∃ k, value = .fin k ∧ lo ≤ k ∧ k ≤ hi ∧ (validatedScale value lo hi name).1 = .fin k := by
  unfold validatedScale at h ⊢
  cases value with
  | fin k =>
    simp only [PyFloat.isFinite_fin, Bool.not_true, Bool.false_eq_true, if_false,
      PyFloat.fin_le_fin] at h ⊢
    split_ifs at h ⊢ with hrange
    exact ⟨k, rfl, hrange.1, hrange.2, rfl⟩
  | nan => cases h
  | posInf => cases h
  | negInf => cases h

/-- Without a configuration error both scales are the configured ones. -/
lemma scales_of_configError {cfg : Config α} (h : cfg.configError = []) :
    (∃ k, cfg.wheelScale = .fin k ∧ 1 ≤ k ∧ cfg.wheel.1 = .fin k) ∧
      ∃ y, cfg.yawScale = .fin y ∧ cfg.yaw.1 = .fin y := by
  unfold Config.configError at h
  rw [List.append_eq_nil_iff, Option.toList_eq_nil_iff, Option.toList_eq_nil_iff] at h
  obtain ⟨k, hk, hlo, -, hwheel⟩ := validatedScale_ok h.1
  obtain ⟨y, hy, -, -, hyaw⟩ := validatedScale_ok h.2
  exact ⟨⟨k, hk, hlo, hwheel⟩, y, hy, hyaw⟩

end Scales

/-! ## Runs of the core -/

/-- The calls of the core between its construction and its shutdown. -/
inductive CoreEvent (α : Type*)
  | stopState (stopRequested : Bool) (validUntil : PyFloat α)
  | cmdVel (vx vy wz now : PyFloat α)
  | tick (now : PyFloat α)

/-- The time of a command. -/
def CoreEvent.cmdTime? {α : Type*} : CoreEvent α → Option (PyFloat α)
  | cmdVel _ _ _ now => some now
  | _ => none

/-- The time of the last command of a history. -/
def lastCmd {α : Type*} (es : List (CoreEvent α)) : Option (PyFloat α) :=
  (es.filterMap CoreEvent.cmdTime?).getLast?

lemma lastCmd_concat {α : Type*} (es : List (CoreEvent α)) (e : CoreEvent α) :
    lastCmd (es ++ [e]) = e.cmdTime?.or (lastCmd es) := by
  unfold lastCmd
  rw [List.filterMap_append]
  cases he : e.cmdTime? with
  | none => simp [he]
  | some now => simp [he]

section Core

variable {α : Type*} [Field α] [LinearOrder α] [IsStrictOrderedRing α]
  (F : FloatFormat α) (L : MathLib α) (cfg : Config α)

/-- The core as a machine that puts out the backend calls of each of its own calls. -/
def coreMachine : Machine (Core α) (CoreEvent α) (List (BackendCall α)) where
  step c
    | .stopState stopRequested validUntil => (c.onStopState cfg stopRequested validUntil, [])
    | .cmdVel vx vy wz now => c.onCmdVel cfg F L vx vy wz now
    | .tick now => c.onWatchdogTick cfg F now

/-- No command arrived within the timeout. -/
def CommandStale (past : List (CoreEvent α)) (now : PyFloat α) : Prop :=
  ∀ last, lastCmd past = some last → ¬ F.sub now last ≤ cfg.timeout

/-- A command is remembered by its time, anything else leaves that alone. -/
lemma lastCmdTime_step (c : Core α) (e : CoreEvent α) :
    ((coreMachine F L cfg).step c e).1.lastCmdTime = e.cmdTime?.or c.lastCmdTime := by
  cases e with
  | stopState b v =>
    simp only [coreMachine, Core.onStopState, CoreEvent.cmdTime?, Option.none_or]
    split_ifs <;> rfl
  | cmdVel vx vy wz now =>
    simp only [coreMachine, Core.onCmdVel, CoreEvent.cmdTime?, Option.some_or]
    split_ifs <;> rfl
  | tick now =>
    simp only [coreMachine, Core.onWatchdogTick, CoreEvent.cmdTime?, Option.none_or]
    split_ifs <;> rfl

/-- The core remembers the time of the last command. -/
lemma lastCmdTime_run (es : List (CoreEvent α)) :
    ((coreMachine F L cfg).run .init es).lastCmdTime = lastCmd es := by
  apply Machine.run_history (I := fun past (c : Core α) => c.lastCmdTime = lastCmd past)
  · rfl
  · intro past e ih
    rw [lastCmdTime_step, ih, lastCmd_concat]

/-- A stale command stream is not fresh. -/
lemma fresh_run_eq_false {past : List (CoreEvent α)} {now : PyFloat α}
    (h : CommandStale F cfg past now) :
    ((coreMachine F L cfg).run .init past).fresh cfg F now = false := by
  unfold Core.fresh
  rw [lastCmdTime_run]
  cases hlast : lastCmd past with
  | none => rfl
  | some last => exact decide_eq_false (h last hlast)

/-- A tick that a stale command or the overlay stops sends one brake. -/
lemma onWatchdogTick_brakes {c : Core α} {now : PyFloat α}
    (h : c.fresh cfg F now = false ∨ c.overlayBlocks cfg now = true) :
    (c.onWatchdogTick cfg F now).2 = [.stopBrake] := by
  unfold Core.onWatchdogTick
  rw [if_neg]
  rintro ⟨-, hfresh, hopen⟩
  rcases h with h | h
  · rw [h] at hfresh
    cases hfresh
  · have hopen' : c.overlayBlocks cfg now = false := hopen
    rw [h] at hopen'
    cases hopen'

/-- Whatever the step, the core sends nothing, one brake, or the clamped command. -/
lemma coreMachine_calls (c : Core α) (e : CoreEvent α) :
    ((coreMachine F L cfg).step c e).2 = [] ∨ ((coreMachine F L cfg).step c e).2 = [.stopBrake] ∨
      ∃ vx vy wz now, e = .cmdVel vx vy wz now ∧ cfg.configError = [] ∧
        ((coreMachine F L cfg).step c e).2 = [Core.toWire cfg F (clampBodyVelocity F L vx
          (if !cfg.lateralEnabled && vy.isFinite then .fin 0 else vy) wz)] := by
  cases e with
  | stopState b v => exact .inl rfl
  | cmdVel vx vy wz now =>
    simp only [coreMachine, Core.onCmdVel]
    by_cases herr : cfg.configError = []
    · rw [if_neg (not_not.mpr herr)]
      by_cases hblocked : Core.overlayBlocks cfg
          { c with lastCmdTime := some now, stale := false } now = true
      · rw [if_pos hblocked]
        exact .inr (.inl rfl)
      · rw [if_neg hblocked]
        exact .inr (.inr ⟨vx, vy, wz, now, rfl, herr, rfl⟩)
    · rw [if_pos herr]
      exact .inr (.inl rfl)
  | tick now =>
    simp only [coreMachine, Core.onWatchdogTick]
    split_ifs
    · exact .inl rfl
    · exact .inr (.inl rfl)

end Core

/-! ## The cap -/

section Cap

/-- The vector `(x, y)` is a safe answer to a command, for the wheel scale `k`: multiplied back it
is within the cap, it does not point away from the command less its masked component, and a
command with an unknown component is answered by zero. -/
structure Capped (k : ℝ) (lateralEnabled : Bool) (vx vy wz : PyFloat ℝ) (x y : ℝ) : Prop where
  norm_le : planarNorm (k * x) (k * y) ≤ 3 / 10
  direction : ∀ a b, vx = .fin a → vy = .fin b →
    ∃ s, 0 ≤ s ∧ x = s * a ∧ y = s * if lateralEnabled then b else 0
  unknown : (vx.isFinite && vy.isFinite && wz.isFinite) = false → x = 0 ∧ y = 0

/-- What the clamp and the wheel scale make of a command. -/
lemma toWire_capped {cfg : Config ℝ} (herr : cfg.configError = []) (vx vy wz : PyFloat ℝ) :
    ∃ k x y z, cfg.wheelScale = .fin k ∧ Capped k cfg.lateralEnabled vx vy wz x y ∧
      Core.toWire cfg (FloatFormat.exact ℝ) (clampBodyVelocity (FloatFormat.exact ℝ) MathLib.real vx
          (if !cfg.lateralEnabled && vy.isFinite then .fin 0 else vy) wz) =
        .setBodyVelocity (.fin x) (.fin y) (.fin z) := by
  obtain ⟨⟨k, hk, hone, hwheel⟩, u, -, hyaw⟩ := scales_of_configError herr
  have hkpos : 0 < k := by linarith
  unfold Core.toWire
  rw [hwheel, hyaw]
  by_cases hfin : (vx.isFinite && vy.isFinite && wz.isFinite) = true
  · simp only [Bool.and_eq_true] at hfin
    obtain ⟨a, rfl⟩ := PyFloat.isFinite_iff.mp hfin.1.1
    obtain ⟨b, rfl⟩ := PyFloat.isFinite_iff.mp hfin.1.2
    obtain ⟨w, rfl⟩ := PyFloat.isFinite_iff.mp hfin.2
    have hmask : (if !cfg.lateralEnabled && (PyFloat.fin b).isFinite then .fin 0 else .fin b) =
        PyFloat.fin (if cfg.lateralEnabled then b else 0) := by
      cases cfg.lateralEnabled <;> rfl
    rw [hmask]
    set lateral := if cfg.lateralEnabled then b else 0 with hlateral
    obtain ⟨s, hs, hnorm, hclamp⟩ := clampBodyVelocity_fin a lateral w
    rw [hclamp]
    refine ⟨k, a * s / k, lateral * s / k, w / (k * u), hk, ⟨?_, ?_, ?_⟩, rfl⟩
    · -- the division by the scale and the multiplication back cancel
      rw [mul_div_cancel₀ _ hkpos.ne', mul_div_cancel₀ _ hkpos.ne']
      exact hnorm
    · rintro a' b' ha hb
      obtain rfl : a = a' := PyFloat.fin.inj ha
      obtain rfl : b = b' := PyFloat.fin.inj hb
      refine ⟨s / k, div_nonneg hs hkpos.le, ?_, ?_⟩
      · rw [mul_div_assoc, mul_comm]
      · rw [← hlateral, mul_div_assoc, mul_comm]
    · intro hunknown
      cases hunknown
  · have hunknown : (vx.isFinite && vy.isFinite && wz.isFinite) = false :=
      Bool.not_eq_true _ |>.mp hfin
    have hmasked : (vx.isFinite && (if !cfg.lateralEnabled && vy.isFinite then (.fin 0) else
        vy).isFinite && wz.isFinite) = false := by
      -- the mask replaces a finite component only, so it hides no unknown one
      cases hvy : vy.isFinite with
      | true =>
        rw [hvy, Bool.and_true] at hunknown
        split_ifs
        · simpa using hunknown
        · rw [hvy, Bool.and_true]
          exact hunknown
      | false => simp [hvy]
    rw [clampBodyVelocity_nonfinite _ _ hmasked]
    refine ⟨k, 0, 0, 0 / (k * u), hk, ⟨?_, ?_, fun _ => ⟨rfl, rfl⟩⟩, ?_⟩
    · have hzero : planarNorm (k * 0) (k * 0) = 0 := by simp [planarNorm]
      rw [hzero]
      norm_num
    · intro a b _ _
      exact ⟨0, le_rfl, by simp, by simp⟩
    · simp

/-- **The speed cap.**  Over exact arithmetic, for every configuration, every run and every
further call: a body velocity goes out only for a command, under a usable wheel scale, and is a
safe answer to it; with a configuration error only brakes go out; and a tick with a stale command
or a blocking overlay sends one brake and nothing else. -/
theorem speed_cap (cfg : Config ℝ) (past : List (CoreEvent ℝ)) (e : CoreEvent ℝ) :
    let c := (coreMachine (FloatFormat.exact ℝ) MathLib.real cfg).run .init past
    let calls := ((coreMachine (FloatFormat.exact ℝ) MathLib.real cfg).step c e).2
    (∀ wx wy wz, .setBodyVelocity wx wy wz ∈ calls →
        ∃ vx vy w now k x y, e = .cmdVel vx vy w now ∧ cfg.wheelScale = .fin k ∧
          wx = .fin x ∧ wy = .fin y ∧ Capped k cfg.lateralEnabled vx vy w x y) ∧
      (cfg.configError ≠ [] → ∀ call ∈ calls, call = .stopBrake) ∧
      ∀ now, e = .tick now →
        CommandStale (FloatFormat.exact ℝ) cfg past now ∨ c.overlayBlocks cfg now = true →
          calls = [.stopBrake] := by
  dsimp only
  have hcalls := coreMachine_calls (FloatFormat.exact ℝ) MathLib.real cfg
    ((coreMachine (FloatFormat.exact ℝ) MathLib.real cfg).run .init past) e
  refine ⟨?_, ?_, ?_⟩
  · intro wx wy wz hmem
    rcases hcalls with hnone | hbrake | ⟨vx, vy, w, now, he, herr, hwire⟩
    · rw [hnone] at hmem
      cases hmem
    · rw [hbrake, List.mem_singleton] at hmem
      cases hmem
    · obtain ⟨k, x, y, z, hk, hcapped, heq⟩ := toWire_capped herr vx vy w
      rw [hwire, List.mem_singleton, heq, BackendCall.setBodyVelocity.injEq] at hmem
      exact ⟨vx, vy, w, now, k, x, y, he, hk, hmem.1, hmem.2.1, hcapped⟩
  · intro herr call hmem
    rcases hcalls with hnone | hbrake | ⟨vx, vy, w, now, -, hok, -⟩
    · rw [hnone] at hmem
      cases hmem
    · rw [hbrake] at hmem
      exact List.mem_singleton.mp hmem
    · exact absurd hok herr
  · rintro now rfl hstop
    apply onWatchdogTick_brakes
    exact hstop.imp_left (fresh_run_eq_false _ _ cfg)

end Cap

end M1Driver

end MiniatureWarehouse
