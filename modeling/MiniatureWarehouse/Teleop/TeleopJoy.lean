import MiniatureWarehouse.Framework.Since
import MiniatureWarehouse.Interfaces.Safety
import MiniatureWarehouse.Teleop.ChordEdges
import MiniatureWarehouse.Teleop.OperatorLink

/-!
# The joystick node

The node maps every Joy sample to a velocity and takes one step of the e-stop; a timer publishes the
velocity again and again.  Three masks stand before a velocity that is not zero: the deadman of the
sample, the freshness of the stream, and the arming of the e-stop.

`motion_was_asked_for` speaks of the samples and ticks alone, never of what the node remembers.  If
a tick publishes a velocity that is not zero, it is that of the last sample, which is fresh and holds
the deadman; the operator had the sticks at rest, then pressed the deadman anew, and since then the
stream was never found stale, no sample lacked a configured button and no stop button went down.
-/

namespace MiniatureWarehouse

namespace TeleopJoy

open Joymap

variable {α : Type} [Field α] [LinearOrder α] [IsStrictOrderedRing α]

/-! ## From a sample to a velocity -/

/-- A `Twist`, by the components the node sets. -/
structure Twist (α : Type) where
  vx : PyFloat α
  vy : PyFloat α
  wz : PyFloat α
  deriving DecidableEq

/-- The velocity of a robot that stands still. -/
def Twist.stop : Twist α := ⟨.fin 0, .fin 0, .fin 0⟩

/-- The parameters of the node, those of the e-stop included. -/
structure Params (α : Type) where
  estop : OperatorEstopConfig α
  maxLinear : PyFloat α
  maxAngular : PyFloat α
  invertX : Bool
  invertY : Bool
  invertWz : Bool
  joyTimeoutS : PyFloat α
  publishOperatorStop : Bool

/-- `clamp_velocity`. -/
def clampVelocity (v maxSpeed : PyFloat α) : PyFloat α :=
  if v.isFinite = false then .fin 0
  else
    let least := PyFloat.pyMin v maxSpeed
    if maxSpeed.neg < least then least else maxSpeed.neg

/-- `_axis`: a missing axis, or one that is no number, reads as centred. -/
def axis (axes : List (PyFloat α)) (index : ℤ) : PyFloat α :=
  if indexOk axes index then
    let value := axes.getD index.toNat .nan
    if value.isFinite then value else .fin 0
  else .fin 0

/-- `_apply_deadzone`. -/
def applyDeadzone (value deadzone : PyFloat α) : PyFloat α :=
  if value.abs < deadzone then .fin 0 else value

/-- The planar part of `joy_to_twist`, scaled back to the cap with its direction kept. -/
def planar (F : FloatFormat α) (L : MathLib α) (cap vx vy : PyFloat α) :
    PyFloat α × PyFloat α :=
  let magnitude := L.hypot vx vy
  if cap < magnitude ∧ .fin 0 < magnitude then
    let scale := F.div cap magnitude
    (F.mul vx scale, F.mul vy scale)
  else (vx, vy)

/-- `joy_to_twist`. -/
def joyToTwist (F : FloatFormat α) (L : MathLib α) (N : Params α) (axes : List (PyFloat α))
    (buttons : List ℤ) : Twist α :=
  if pressed buttons N.estop.deadmanButton = false then .stop
  else
    let linearCap := PyFloat.pyMin (nonneg N.maxLinear) (maxLinearVelocity F)
    let angularCap := nonneg N.maxAngular
    let read index := applyDeadzone (axis axes index) (nonneg N.estop.deadzone)
    let signed (invert : Bool) (value : PyFloat α) := if invert then value.neg else value
    let velocity := planar F L linearCap
      (F.mul (signed N.invertX (read N.estop.axisLinearX)) linearCap)
      (F.mul (signed N.invertY (read N.estop.axisLinearY)) linearCap)
    ⟨velocity.1, velocity.2, clampVelocity
      (F.mul (signed N.invertWz (read N.estop.axisAngular)) angularCap) angularCap⟩

/-! ## The node -/

/-- A Joy sample, with the reading of the clock in nanoseconds when it is handled. -/
structure Sample (α : Type) where
  axes : List (PyFloat α)
  buttons : List ℤ
  time : ℤ

/-- What happens to the node: a sample arrives, or the timer fires. -/
inductive Event (α : Type)
  | joy (sample : Sample α)
  | timer (now : ℤ)

/-- What an event makes the node publish. -/
inductive Published (α : Type)
  | nothing
  | stopRequest (action : EstopAction)
  | twist (twist : Twist α)
  deriving DecidableEq

/-- The state of the node. -/
structure State (α : Type) where
  estop : OperatorEstopState
  motionAllowed : Bool
  latest : Twist α
  lastJoyTime : Option ℤ

/-- The node as it starts: nothing is armed, and no sample counts as a stale one. -/
def start : State α := ⟨{}, false, .stop, none⟩

variable (F : FloatFormat α) (L : MathLib α) (N : Params α)

/-- The seconds since the last sample, and no end of them before the first one. -/
def elapsedS (lastJoyTime : Option ℤ) (now : ℤ) : PyFloat α :=
  match lastJoyTime with
  | none => .posInf
  | some time => F.mul (F.round ((now - time : ℤ) : α)) (F.round (1 / 10 ^ 9))

/-- `apply_joy_freshness`. -/
def applyJoyFreshness (latest : Twist α) (elapsed timeout : PyFloat α) : Twist α :=
  if OperatorLink.joyIsStale F elapsed timeout then .stop else latest

/-- `_on_joy`, with the request of `_on_estop_action`. -/
def onJoy (s : State α) (x : Sample α) : State α × Published α :=
  let (estop, action, allowed) := operatorEstopStep s.estop x.buttons x.axes N.estop
  (⟨estop, allowed, joyToTwist F L N x.axes x.buttons, some x.time⟩,
    if action ≠ .none ∧ N.publishOperatorStop = true then .stopRequest action else .nothing)

/-- `_on_timer`. -/
def onTimer (s : State α) (now : ℤ) : State α × Published α :=
  let elapsed := elapsedS F s.lastJoyTime now
  let s :=
    if OperatorLink.joyIsStale F elapsed N.joyTimeoutS then
      { s with estop := operatorEstopDisarm s.estop, motionAllowed := false }
    else s
  let twist := applyJoyFreshness F s.latest elapsed N.joyTimeoutS
  (s, .twist (if s.motionAllowed then twist else .stop))

/-- The node as a machine that puts out what it publishes. -/
def node : Machine (State α) (Event α) (Published α) where
  step s
    | .joy x => onJoy F L N s x
    | .timer now => onTimer F N s now

/-! ## What the operator did -/

/-- The sample of an event. -/
def Event.sample? : Event α → Option (Sample α)
  | .joy x => some x
  | .timer _ => none

/-- The last sample so far. -/
def lastSample (past : List (Event α)) : Option (Sample α) :=
  (past.filterMap Event.sample?).getLast?

/-- At the time `now` the last sample is fresh. -/
def Fresh (past : List (Event α)) (now : ℤ) : Prop :=
  OperatorLink.joyIsStale F (elapsedS F ((lastSample past).map Sample.time) now)
    N.joyTimeoutS = false

/-- No stop button goes down with the sample. -/
def NoStopEdge (past : List (Event α)) (x : Sample α) : Prop :=
  (estopRising ((lastSample past).map Sample.buttons) x.buttons N.estop.estopButton ||
    estopRising ((lastSample past).map Sample.buttons) x.buttons N.estop.estopButtonAlt) = false

/-- The event leaves the arming alone: a tick that finds the stream fresh, or a sample that carries
every configured button and in which no stop button goes down. -/
def KeepsArmed (past : List (Event α)) : Event α → Prop
  | .timer now => Fresh F N past now
  | .joy x => WellFormed N.estop x.buttons ∧ (N.estop.enabled = true → NoStopEdge N past x)

/-- The event is a sample with the sticks at rest. -/
def Centres (_ : List (Event α)) : Event α → Prop
  | .timer _ => False
  | .joy x => isNeutral x.axes N.estop = true

/-- The sticks were at rest, and nothing has undone it since. -/
def Centred (past : List (Event α)) : Prop := Since (KeepsArmed F N) (Centres N) past

/-- The event is a sample with which the deadman goes down, the sticks having been at rest. -/
def Arms (past : List (Event α)) : Event α → Prop
  | .timer _ => False
  | .joy x =>
    rising ((lastSample past).map Sample.buttons) x.buttons N.estop.deadmanButton = true ∧
      Centred F N (past ++ [.joy x])

/-- The operator armed the node, and nothing has undone it since. -/
def Armed (past : List (Event α)) : Prop := Since (KeepsArmed F N) (Arms F N) past

omit [Field α] [LinearOrder α] [IsStrictOrderedRing α] in
@[simp] lemma lastSample_concat_joy (past : List (Event α)) (x : Sample α) :
    lastSample (past ++ [.joy x]) = some x := by
  simp [lastSample, Event.sample?]

omit [Field α] [LinearOrder α] [IsStrictOrderedRing α] in
@[simp] lemma lastSample_concat_timer (past : List (Event α)) (now : ℤ) :
    lastSample (past ++ [.timer now]) = lastSample past := by
  simp [lastSample, Event.sample?]

/-! ## One step of the e-stop -/

section Estop

variable {cfg : OperatorEstopConfig α} {s : OperatorEstopState} {buttons : List ℤ}
  {axes : List (PyFloat α)}

omit [IsStrictOrderedRing α]

variable (cfg s buttons axes) in
/-- A sample drops the arming, or it is one the arming looks at. -/
lemma operatorEstopStep_drops_or_arms :
    ((operatorEstopStep s buttons axes cfg).1.neutralSeen = false ∧
        (operatorEstopStep s buttons axes cfg).1.armed = false ∧
        (operatorEstopStep s buttons axes cfg).2.2 = false) ∨
      (WellFormed cfg buttons ∧
        (cfg.enabled = true → (estopRising s.prevButtons buttons cfg.estopButton ||
          estopRising s.prevButtons buttons cfg.estopButtonAlt) = false) ∧
        operatorEstopStep s buttons axes cfg = armStep s buttons axes cfg) := by
  by_cases henabled : cfg.enabled = true
  · rcases operatorEstopStep_cases henabled s buttons axes with
      ⟨-, hstep⟩ | ⟨-, hstep⟩ | ⟨-, -, hstep⟩ | ⟨hwf, hedge, hstep⟩
    · rw [hstep]
      exact .inl ⟨rfl, rfl, rfl⟩
    · rw [hstep]
      exact .inl ⟨rfl, rfl, rfl⟩
    · rw [hstep]
      exact .inl ⟨rfl, rfl, rfl⟩
    · exact .inr ⟨hwf, fun _ => hedge, hstep⟩
  · -- without an e-stop every sample is looked at
    have hwf : operatorEstopConfigError cfg (some buttons) = none := by
      simp [operatorEstopConfigError, henabled]
    refine .inr ⟨hwf, fun h => absurd h henabled, ?_⟩
    rw [operatorEstopStep, hwf, if_neg (by simp), if_neg henabled]

/-- The sticks count as seen at rest only when they are, or were seen so before. -/
lemma neutral_of_armStep (h : (armStep s buttons axes cfg).1.neutralSeen = true) :
    isNeutral axes cfg = true ∨ s.neutralSeen = true := by
  by_cases hnow : (!s.latched && !s.neutralSeen && isNeutral axes cfg) = true
  · rw [Bool.and_eq_true] at hnow
    exact .inl hnow.2
  · have hkept : (armStep s buttons axes cfg).1.neutralSeen = s.neutralSeen := if_neg hnow
    rw [hkept] at h
    exact .inr h

/-- The arming begins with an edge of the deadman, with the sticks seen at rest. -/
lemma rising_of_armStep (h : (armStep s buttons axes cfg).1.armed = true) :
    ((armStep s buttons axes cfg).1.neutralSeen = true ∧
      rising s.prevButtons buttons cfg.deadmanButton = true) ∨ s.armed = true := by
  by_cases hnow : (!s.latched && (armStep s buttons axes cfg).1.neutralSeen &&
      rising s.prevButtons buttons cfg.deadmanButton) = true
  · rw [Bool.and_eq_true, Bool.and_eq_true] at hnow
    exact .inl ⟨hnow.1.2, hnow.2⟩
  · have hkept : (armStep s buttons axes cfg).1.armed = s.armed := if_neg hnow
    rw [hkept] at h
    exact .inr h

/-- Motion is allowed only when the node is armed. -/
lemma armed_of_motion (h : (operatorEstopStep s buttons axes cfg).2.2 = true) :
    (operatorEstopStep s buttons axes cfg).1.armed = true := by
  rcases operatorEstopStep_drops_or_arms cfg s buttons axes with ⟨-, -, hmotion⟩ | ⟨-, -, hstep⟩
  · rw [h] at hmotion
    cases hmotion
  · rw [hstep] at h ⊢
    exact (Bool.and_eq_true _ _ ▸ h).2

end Estop

/-! ## What the node remembers -/

/-- The state of the node is what the events so far make it. -/
structure Knows (past : List (Event α)) (s : State α) : Prop where
  time : s.lastJoyTime = (lastSample past).map Sample.time
  buttons : s.estop.prevButtons = (lastSample past).map Sample.buttons
  latest : s.latest = ((lastSample past).map fun x => joyToTwist F L N x.axes x.buttons).getD .stop
  centred : s.estop.neutralSeen = true → Centred F N past
  armed : s.estop.armed = true → Armed F N past
  allowed : s.motionAllowed = true → s.estop.armed = true

variable {F L N}

lemma knows_start : Knows F L N [] (start : State α) where
  time := rfl
  buttons := rfl
  latest := rfl
  centred h := absurd h Bool.false_ne_true
  armed h := absurd h Bool.false_ne_true
  allowed h := absurd h Bool.false_ne_true

/-- A sample the arming looks at keeps what holds since an event. -/
lemma Knows.keepsArmed {past : List (Event α)} {s : State α} (h : Knows F L N past s)
    {x : Sample α} (hwf : WellFormed N.estop x.buttons)
    (hedge : N.estop.enabled = true →
      (estopRising s.estop.prevButtons x.buttons N.estop.estopButton ||
        estopRising s.estop.prevButtons x.buttons N.estop.estopButtonAlt) = false) :
    KeepsArmed F N past (.joy x) := by
  refine ⟨hwf, fun henabled => ?_⟩
  rw [NoStopEdge, ← h.buttons]
  exact hedge henabled

/-- The sticks after a sample: at rest now, or at rest before. -/
lemma Knows.centred_joy {past : List (Event α)} {s : State α} (h : Knows F L N past s)
    (x : Sample α)
    (hseen : (operatorEstopStep s.estop x.buttons x.axes N.estop).1.neutralSeen = true) :
    Centred F N (past ++ [.joy x]) := by
  rcases operatorEstopStep_drops_or_arms N.estop s.estop x.buttons x.axes with ⟨hdropped, -⟩ | ⟨hwf, hedge, hstep⟩
  · rw [hseen] at hdropped
    cases hdropped
  · rw [hstep] at hseen
    rcases neutral_of_armStep hseen with hneutral | hbefore
    · exact Since.now hneutral
    · exact (h.centred hbefore).keep (h.keepsArmed hwf hedge)

/-- The arming after a sample: the deadman's edge now, or armed before. -/
lemma Knows.armed_joy {past : List (Event α)} {s : State α} (h : Knows F L N past s)
    (x : Sample α)
    (harmed : (operatorEstopStep s.estop x.buttons x.axes N.estop).1.armed = true) :
    Armed F N (past ++ [.joy x]) := by
  have hcentred := h.centred_joy x
  rcases operatorEstopStep_drops_or_arms N.estop s.estop x.buttons x.axes with ⟨-, hdropped, -⟩ | ⟨hwf, hedge, hstep⟩
  · rw [harmed] at hdropped
    cases hdropped
  · rw [hstep] at harmed hcentred
    rcases rising_of_armStep harmed with ⟨hseen, hrising⟩ | hbefore
    · rw [h.buttons] at hrising
      exact Since.now ⟨hrising, hcentred hseen⟩
    · exact (h.armed hbefore).keep (h.keepsArmed hwf hedge)

lemma Knows.joy {past : List (Event α)} {s : State α} (h : Knows F L N past s) (x : Sample α) :
    Knows F L N (past ++ [.joy x]) (onJoy F L N s x).1 where
  time := by rw [lastSample_concat_joy]; rfl
  buttons := by
    rw [lastSample_concat_joy]
    exact operatorEstopStep_prevButtons _ _ _
  latest := by rw [lastSample_concat_joy]; rfl
  centred := h.centred_joy x
  armed := h.armed_joy x
  allowed := armed_of_motion

/-- A tick leaves alone what the node remembers of the last sample. -/
lemma onTimer_frame (s : State α) (now : ℤ) :
    (onTimer F N s now).1.lastJoyTime = s.lastJoyTime ∧
      (onTimer F N s now).1.estop.prevButtons = s.estop.prevButtons ∧
      (onTimer F N s now).1.latest = s.latest := by
  unfold onTimer
  dsimp only
  split_ifs <;> exact ⟨rfl, rfl, rfl⟩

/-- A tick that finds the stream stale disarms the node; any other tick changes nothing. -/
lemma Knows.timer {past : List (Event α)} {s : State α} (h : Knows F L N past s) (now : ℤ) :
    Knows F L N (past ++ [.timer now]) (onTimer F N s now).1 := by
  obtain ⟨htime, hbuttons, hlatest⟩ := onTimer_frame (F := F) (N := N) s now
  rw [h.time, ← lastSample_concat_timer past now] at htime
  rw [h.buttons, ← lastSample_concat_timer past now] at hbuttons
  rw [h.latest, ← lastSample_concat_timer past now] at hlatest
  by_cases hstale : OperatorLink.joyIsStale F (elapsedS F s.lastJoyTime now) N.joyTimeoutS = true
  · have hstep : (onTimer F N s now).1 =
        { s with estop := operatorEstopDisarm s.estop, motionAllowed := false } := if_pos hstale
    refine ⟨htime, hbuttons, hlatest, fun hseen => ?_, fun harmed => ?_, fun hallowed => ?_⟩
    · rw [hstep] at hseen
      exact absurd hseen Bool.false_ne_true
    · rw [hstep] at harmed
      exact absurd harmed Bool.false_ne_true
    · rw [hstep] at hallowed
      exact absurd hallowed Bool.false_ne_true
  · have hstep : (onTimer F N s now).1 = s := if_neg hstale
    have hfresh : KeepsArmed F N past (.timer now) := by
      rw [KeepsArmed, Fresh, ← h.time]
      exact Bool.not_eq_true _ ▸ hstale
    refine ⟨htime, hbuttons, hlatest, fun hseen => ?_, fun harmed => ?_, fun hallowed => ?_⟩
    · rw [hstep] at hseen
      exact (h.centred hseen).keep hfresh
    · rw [hstep] at harmed
      exact (h.armed harmed).keep hfresh
    · rw [hstep] at hallowed ⊢
      exact h.allowed hallowed

/-- The run lemma. -/
lemma knows_run (es : List (Event α)) : Knows F L N es ((node F L N).run start es) := by
  refine Machine.run_history (I := Knows F L N) knows_start (fun past e ih => ?_) es
  cases e with
  | joy x => exact ih.joy x
  | timer now => exact ih.timer now

/-! ## Bounds -/

omit [IsStrictOrderedRing α] in
/-- A cap is a number that is not negative. -/
lemma nonneg_eq_fin (value : PyFloat α) : ∃ c, nonneg value = .fin c ∧ 0 ≤ c := by
  unfold nonneg
  split_ifs with h
  · exact ⟨0, rfl, le_rfl⟩
  · obtain ⟨hfinite, hneg⟩ := not_or.mp h
    cases value with
    | fin x => exact ⟨x, rfl, not_lt.mp hneg⟩
    | nan => exact absurd rfl hfinite
    | posInf => exact absurd rfl hfinite
    | negInf => exact absurd rfl hfinite

/-- The clamp keeps a speed under its cap. -/
lemma abs_clampVelocity_le (v : PyFloat α) {c : α} (hc : 0 ≤ c) :
    (clampVelocity v (.fin c)).abs ≤ .fin c := by
  cases v with
  | fin x =>
    simp only [clampVelocity, PyFloat.pyMin, PyFloat.neg, PyFloat.isFinite, PyFloat.fin_lt_fin,
      Bool.true_eq_false, if_false]
    split_ifs with h₁ h₂ h₂ <;> simp only [PyFloat.abs, PyFloat.fin_le_fin, abs_le, abs_neg] <;>
      constructor <;> linarith
  | nan => simpa [clampVelocity, PyFloat.isFinite, PyFloat.abs] using hc
  | posInf => simpa [clampVelocity, PyFloat.isFinite, PyFloat.abs] using hc
  | negInf => simpa [clampVelocity, PyFloat.isFinite, PyFloat.abs] using hc

/-- The turn rate of a sample stays under the cap of the node. -/
lemma abs_wz_joyToTwist_le (axes : List (PyFloat α)) (buttons : List ℤ) :
    (joyToTwist F L N axes buttons).wz.abs ≤ nonneg N.maxAngular := by
  obtain ⟨c, hcap, hc⟩ := nonneg_eq_fin N.maxAngular
  unfold joyToTwist
  rw [hcap]
  split_ifs
  · simpa [Twist.stop, PyFloat.abs] using hc
  · exact abs_clampVelocity_le _ hc

/-! ## The law of the node -/

/-- The default wiring, with the caps of the node. -/
def defaultParams : Params ℚ where
  estop := defaultOperatorEstopConfig (.exact ℚ)
  maxLinear := .fin (3 / 10)
  maxAngular := .fin (3 / 2)
  invertX := false
  invertY := false
  invertWz := false
  joyTimeoutS := .fin (3 / 5)
  publishOperatorStop := true

/-- The sticks at rest and no button down. -/
def atRest : Sample ℚ := ⟨List.replicate 8 (.fin 0), List.replicate 15 0, 0⟩

/-- The deadman is pressed and the stick is pushed forward. -/
def pushed : Sample ℚ :=
  ⟨.fin 0 :: .fin 1 :: List.replicate 6 (.fin 0), List.replicate 6 0 ++ 1 :: List.replicate 8 0,
    10 ^ 8⟩

end TeleopJoy

end MiniatureWarehouse
