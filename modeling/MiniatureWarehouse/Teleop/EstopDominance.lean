import MiniatureWarehouse.Teleop.Joymap
import Mathlib.Algebra.Order.Field.Rat

/-!
# A held e-stop keeps the robot still

An e-stop button is noticed by its edge, so while the latch is open no stop button may be down
in the remembered sample (`EstopSeen`): a button that is down there has no edge left to give.

A sample that lacks a configured button is remembered without being acted on.  If a stop button
is down in it, the press is swallowed, and the robot can be armed and driven with the button
held.  As long as no such sample arrives while the latch is open, a sample that allows motion
has both stop buttons released.
-/

namespace MiniatureWarehouse

namespace Joymap

section Dominance

variable {α : Type*} [Field α] [LinearOrder α] (cfg : OperatorEstopConfig α)

/-- One of the two stop buttons is down. -/
def EstopPressed (buttons : List ℤ) : Prop :=
  pressed buttons cfg.estopButton = true ∨ pressed buttons cfg.estopButtonAlt = true

instance (buttons : List ℤ) : Decidable (EstopPressed cfg buttons) :=
  inferInstanceAs (Decidable (_ ∨ _))

/-- The sample carries every configured button. -/
def WellFormed (buttons : List ℤ) : Prop := operatorEstopConfigError cfg (some buttons) = none

instance (buttons : List ℤ) : Decidable (WellFormed cfg buttons) :=
  inferInstanceAs (Decidable (_ = _))

/-- With the latch open, no stop button is down in the remembered sample. -/
def EstopSeen (s : OperatorEstopState) : Prop :=
  s.latched = false → ∀ prev, s.prevButtons = some prev → ¬ EstopPressed cfg prev

/-- The step swallows no press: a sample that is not acted on while the latch is open has both
stop buttons released. -/
def NoSwallowedPress (s : OperatorEstopState) : JoyEvent α → Prop
  | .sample buttons _ =>
    ¬ WellFormed cfg buttons → s.latched = false → ¬ EstopPressed cfg buttons
  | .disarm => True

instance (s : OperatorEstopState) (e : JoyEvent α) : Decidable (NoSwallowedPress cfg s e) :=
  match e with
  | .sample buttons _ =>
    inferInstanceAs (Decidable (¬ WellFormed cfg buttons → s.latched = false →
      ¬ EstopPressed cfg buttons))
  | .disarm => .isTrue trivial

variable {cfg}

omit [Field α] [LinearOrder α] in
/-- Without an edge of either stop button, a button that is down was down before. -/
lemma estopPressed_of_not_rising {prev : Option (List ℤ)} {buttons : List ℤ}
    (h : (estopRising prev buttons cfg.estopButton ||
      estopRising prev buttons cfg.estopButtonAlt) = false)
    (hnow : EstopPressed cfg buttons) : ∃ before, prev = some before ∧ EstopPressed cfg before := by
  have hbefore : ∀ index, estopRising prev buttons index = false → pressed buttons index = true →
      ∃ before, prev = some before ∧ pressed before index = true := by
    intro index hrising hpressed
    unfold estopRising at hrising
    rw [hpressed] at hrising
    cases prev with
    | none => simp at hrising
    | some before => exact ⟨before, rfl, by simpa using hrising⟩
  rw [Bool.or_eq_false_iff] at h
  rcases hnow with hmain | halt
  · obtain ⟨before, hprev, hdown⟩ := hbefore _ h.1 hmain
    exact ⟨before, hprev, .inl hdown⟩
  · obtain ⟨before, hprev, hdown⟩ := hbefore _ h.2 halt
    exact ⟨before, hprev, .inr hdown⟩

/-- What one sample can do to an enabled latch. -/
lemma operatorEstopStep_cases (henabled : cfg.enabled = true) (s : OperatorEstopState)
    (buttons : List ℤ) (axes : List (PyFloat α)) :
    (¬ WellFormed cfg buttons ∧ operatorEstopStep s buttons axes cfg =
        ({ s with armed := false, neutralSeen := false, prevButtons := some buttons },
          .none, false)) ∨
      (WellFormed cfg buttons ∧ operatorEstopStep s buttons axes cfg =
        (⟨true, false, false, some buttons⟩, .engage, false)) ∨
      (WellFormed cfg buttons ∧ ¬ EstopPressed cfg buttons ∧ operatorEstopStep s buttons axes cfg =
        (⟨false, false, false, some buttons⟩, .clear, false)) ∨
      (WellFormed cfg buttons ∧ (estopRising s.prevButtons buttons cfg.estopButton ||
          estopRising s.prevButtons buttons cfg.estopButtonAlt) = false ∧
        operatorEstopStep s buttons axes cfg = armStep s buttons axes cfg) := by
  unfold operatorEstopStep WellFormed
  by_cases hwf : operatorEstopConfigError cfg (some buttons) = none
  · rw [hwf]
    simp only [Option.isSome_none, Bool.false_eq_true, if_false, henabled, if_true, not_true,
      true_and, false_and, false_or]
    by_cases hrising : (estopRising s.prevButtons buttons cfg.estopButton ||
        estopRising s.prevButtons buttons cfg.estopButtonAlt) = true
    · exact .inl (if_pos hrising)
    · rw [if_neg hrising]
      split_ifs with hclear
      · -- the chord releases the stop only with both stop buttons up
        simp only [Bool.and_eq_true, Bool.not_eq_true'] at hclear
        refine .inr (.inl ⟨?_, rfl⟩)
        rintro (hmain | halt)
        · rw [hclear.1.2] at hmain
          cases hmain
        · rw [hclear.2] at halt
          cases halt
      · exact .inr (.inr ⟨by simpa using hrising, rfl⟩)
  · refine .inl ⟨hwf, ?_⟩
    rw [if_pos (Option.isSome_iff_ne_none.mpr hwf)]

/-- The arming part moves neither the latch nor the stop buttons. -/
@[simp] lemma armStep_latched (s : OperatorEstopState) (buttons : List ℤ)
    (axes : List (PyFloat α)) : (armStep s buttons axes cfg).1.latched = s.latched := rfl

@[simp] lemma armStep_prevButtons (s : OperatorEstopState) (buttons : List ℤ)
    (axes : List (PyFloat α)) :
    (armStep s buttons axes cfg).1.prevButtons = some buttons := rfl

/-- **Motion only with the stop buttons released**, one sample. -/
lemma not_estopPressed_of_motion (henabled : cfg.enabled = true) {s : OperatorEstopState}
    (hs : EstopSeen cfg s) {buttons : List ℤ} {axes : List (PyFloat α)}
    (hmotion : (operatorEstopStep s buttons axes cfg).2.2 = true) :
    ¬ EstopPressed cfg buttons := by
  intro hpressed
  rcases operatorEstopStep_cases henabled s buttons axes with
    ⟨-, hstep⟩ | ⟨-, hstep⟩ | ⟨-, hreleased, -⟩ | ⟨-, hrising, hstep⟩
  · rw [hstep] at hmotion
    cases hmotion
  · rw [hstep] at hmotion
    cases hmotion
  · exact hreleased hpressed
  · -- the button was down before, so the latch is closed
    obtain ⟨before, hprev, hdown⟩ := estopPressed_of_not_rising hrising hpressed
    rw [hstep] at hmotion
    have hopen : s.latched = false := by
      simp only [armStep, Bool.and_eq_true, Bool.not_eq_true'] at hmotion
      exact hmotion.1
    exact hs hopen before hprev hdown

/-- A step that swallows no press keeps the remembered sample free of them. -/
lemma EstopSeen.step (henabled : cfg.enabled = true) (s : OperatorEstopState) (e : JoyEvent α)
    (he : NoSwallowedPress cfg s e) (hs : EstopSeen cfg s) :
    EstopSeen cfg ((estopMachine cfg).step s e).1 := by
  cases e with
  | disarm => exact hs
  | sample buttons axes =>
    intro hlatched prev hprev
    rcases operatorEstopStep_cases henabled s buttons axes with
      ⟨hwf, hstep⟩ | ⟨-, hstep⟩ | ⟨-, hreleased, hstep⟩ | ⟨-, hrising, hstep⟩
    · simp only [estopMachine, hstep, Option.some.injEq] at hlatched hprev
      subst hprev
      exact he hwf hlatched
    · simp only [estopMachine, hstep] at hlatched
      cases hlatched
    · simp only [estopMachine, hstep, Option.some.injEq] at hprev
      subst hprev
      exact hreleased
    · simp only [estopMachine, hstep, armStep_latched, armStep_prevButtons,
        Option.some.injEq] at hlatched hprev
      subst hprev
      intro hpressed
      obtain ⟨before, hbefore, hdown⟩ := estopPressed_of_not_rising hrising hpressed
      exact hs hlatched before hbefore hdown

variable (cfg) in
/-- **A held e-stop keeps the robot still.**  In every run of samples and disarms under an
enabled wiring in which no press is swallowed, a sample that allows motion has both stop buttons
released. -/
theorem motion_allowed_not_estop (henabled : cfg.enabled = true) (es : List (JoyEvent α))
    (hes : (estopMachine cfg).AllSteps (NoSwallowedPress cfg) {} es) :
    ∀ pre buttons axes post, es = pre ++ .sample buttons axes :: post →
      (operatorEstopStep ((estopMachine cfg).run {} pre) buttons axes cfg).2.2 = true →
        ¬ EstopPressed cfg buttons := by
  rintro pre buttons axes post rfl hmotion
  have hpre := ((estopMachine cfg).allSteps_append _ _ pre _).mp hes
  have hinit : EstopSeen cfg {} := by
    intro _ prev hprev
    cases hprev
  have hseen := Machine.run_invariant (EstopSeen.step henabled) hpre.1 hinit
  exact not_estopPressed_of_motion henabled hseen hmotion

end Dominance

/-! ## A press in a truncated sample -/

/-- A full sample with the buttons of `down` held and the sticks at rest. -/
def fullSample (down : List ℕ) : JoyEvent ℚ :=
  .sample ((List.range 15).map fun i => if i ∈ down then 1 else 0) (List.replicate 8 (.fin 0))

/-- The stop button is held throughout; only the first sample is truncated, to eight buttons. -/
def heldThroughout : List (JoyEvent ℚ) :=
  [.sample [0, 1, 0, 0, 0, 0, 0, 0] (List.replicate 8 (.fin 0)), fullSample [1], fullSample [1, 6]]

/-- **A press in a truncated sample is lost.**  The stop button is down in every sample, the
wiring is the default one, and the last sample allows motion. -/
theorem truncated_press_is_lost :
    let cfg := defaultOperatorEstopConfig (FloatFormat.exact ℚ)
    operatorEstopConfigError cfg none = none ∧
      (estopMachine cfg).outputs {} heldThroughout =
        [some (.none, false), some (.none, false), some (.none, true)] ∧
      ∀ e ∈ heldThroughout, ∀ buttons axes, e = .sample buttons axes →
        EstopPressed cfg buttons := by
  refine ⟨by decide +kernel, by decide +kernel, ?_⟩
  intro e he buttons axes heq
  subst heq
  simp only [heldThroughout, fullSample, List.mem_cons, List.not_mem_nil, or_false,
    JoyEvent.sample.injEq] at he
  rcases he with ⟨rfl, -⟩ | ⟨rfl, -⟩ | ⟨rfl, -⟩ <;> decide +kernel

/-- The rule at a run that arms properly: the stop buttons are up when motion is allowed. -/
theorem motion_allowed_not_estop_arming :
    ¬ EstopPressed (defaultOperatorEstopConfig (FloatFormat.exact ℚ))
      ((List.range 15).map fun i => if i ∈ [6] then 1 else 0) := by
  have hrun := motion_allowed_not_estop (defaultOperatorEstopConfig (FloatFormat.exact ℚ))
    (by decide +kernel) [fullSample [], fullSample [6]] (by decide +kernel)
  exact hrun [fullSample []] _ _ [] rfl (by decide +kernel)

end Joymap

end MiniatureWarehouse
