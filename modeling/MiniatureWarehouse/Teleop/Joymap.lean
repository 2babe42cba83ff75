import MiniatureWarehouse.Framework.Floats
import MiniatureWarehouse.Framework.Runs

/-!
# The operator e-stop of the joystick teleop

The latch and the re-arm sequence of `joymap`.  Only Joy samples and the disarm of a stale
stream move the state.  Every transition is a rising edge against the buttons of the previous
sample, and no history is read in opposite directions: it is no press on the arming side and a
press on the stopping side.

A sample is judged together with the wiring first.  One that does not carry every configured
button drops the arming and decides nothing else, but it does become the previous sample.
-/

namespace MiniatureWarehouse

namespace Joymap

/-- The wire actions of the latch. -/
inductive EstopAction
  | none
  | engage
  | clear
  deriving DecidableEq, Repr

/-- `OperatorEstopConfig`: the wiring.  Indices are ros parameters, so they can be negative. -/
structure OperatorEstopConfig (α : Type*) where
  deadmanButton : ℤ
  estopButton : ℤ
  estopButtonAlt : ℤ
  clearButtons : List ℤ
  axisLinearX : ℤ
  axisLinearY : ℤ
  axisAngular : ℤ
  deadzone : PyFloat α

/-- `enabled`: the one sentinel. -/
def OperatorEstopConfig.enabled {α : Type*} (cfg : OperatorEstopConfig α) : Bool :=
  cfg.estopButton ≠ -1

/-- The defaults of the configuration. -/
def defaultOperatorEstopConfig {α : Type*} [Field α] [LinearOrder α] [IsStrictOrderedRing α]
    (F : FloatFormat α) : OperatorEstopConfig α where
  deadmanButton := 6
  estopButton := 1
  estopButtonAlt := 7
  clearButtons := [10, 11]
  axisLinearX := 1
  axisLinearY := 0
  axisAngular := 2
  deadzone := F.round (1 / 10)

/-- `OperatorEstopState`; no previous buttons means no history yet. -/
structure OperatorEstopState where
  latched : Bool := false
  neutralSeen : Bool := false
  armed : Bool := false
  prevButtons : Option (List ℤ) := none
  deriving DecidableEq

/-! ## Reading a sample -/

/-- `_index_ok`. -/
def indexOk {β : Type*} (xs : List β) (index : ℤ) : Bool :=
  decide (0 ≤ index ∧ index < xs.length)

/-- `_pressed`: a missing button is not pressed. -/
def pressed (buttons : List ℤ) (index : ℤ) : Bool :=
  if index < 0 ∨ (buttons.length : ℤ) ≤ index then false else buttons.getD index.toNat 0 ≠ 0

/-- `_rising`: the edge of the arming side. -/
def rising (prev : Option (List ℤ)) (now : List ℤ) (index : ℤ) : Bool :=
  match prev with
  | none => false
  | some prev => pressed now index && !pressed prev index

/-- `_estop_rising`: the edge of the stopping side. -/
def estopRising (prev : Option (List ℤ)) (now : List ℤ) (index : ℤ) : Bool :=
  if !pressed now index then false
  else match prev with
    | none => true
    | some prev => !pressed prev index

/-- `_chord_rising`: the chord completes on this sample. -/
def chordRising (prev : Option (List ℤ)) (now : List ℤ) (indices : List ℤ) : Bool :=
  match prev with
  | none => false
  | some prev =>
    if indices.isEmpty then false
    else if !indices.all (pressed now) then false
    else !indices.all (pressed prev)

section Model

variable {α : Type*} [Field α] [LinearOrder α]

/-- `_nonneg`: a cap is never negative and always a number. -/
def nonneg (value : PyFloat α) : PyFloat α :=
  if value.isFinite = false ∨ value < .fin 0 then .fin 0 else value

/-- `_is_neutral`: every mapped axis is there, is a number and is centred. -/
def isNeutral (axes : List (PyFloat α)) (cfg : OperatorEstopConfig α) : Bool :=
  [cfg.axisLinearX, cfg.axisLinearY, cfg.axisAngular].all fun index =>
    if !indexOk axes index then false
    else
      let value := axes.getD index.toNat .nan
      !(!value.isFinite || decide (nonneg cfg.deadzone ≤ value.abs))

omit [Field α] [LinearOrder α] in
/-- The static part of `operator_estop_config_error`, for an enabled latch. -/
def staticError (cfg : OperatorEstopConfig α) : Option String :=
  if cfg.estopButton < -1 then
    some s!"estop_button {cfg.estopButton} is not an index (-1 is the only sentinel)"
  else if cfg.estopButtonAlt < -1 then
    some s!"estop_button_alt {cfg.estopButtonAlt} is not an index (-1 disables the alt)"
  else if cfg.clearButtons.isEmpty then
    some "estop is enabled but estop_clear_buttons is empty (no way to clear the stop)"
  else if cfg.clearButtons.any (· < 0) then
    some s!"estop_clear_buttons has a negative index: {cfg.clearButtons}"
  else if cfg.estopButton = cfg.deadmanButton then
    some s!"estop_button {cfg.estopButton} is also the deadman button"
  else if 0 ≤ cfg.estopButtonAlt ∧ cfg.estopButtonAlt = cfg.deadmanButton then
    some s!"estop_button_alt {cfg.estopButtonAlt} is also the deadman button"
  else if 0 ≤ cfg.estopButtonAlt ∧ cfg.estopButtonAlt = cfg.estopButton then
    some s!"estop_button_alt {cfg.estopButtonAlt} duplicates estop_button"
  else if cfg.deadmanButton ∈ cfg.clearButtons then
    some s!"deadman_button {cfg.deadmanButton} is also in the clear chord"
  else if cfg.estopButton ∈ cfg.clearButtons then
    some s!"estop_button {cfg.estopButton} is also in the clear chord"
  else if 0 ≤ cfg.estopButtonAlt ∧ cfg.estopButtonAlt ∈ cfg.clearButtons then
    some s!"estop_button_alt {cfg.estopButtonAlt} is also in the clear chord"
  else none

omit [Field α] [LinearOrder α] in
/-- The range checks of `operator_estop_config_error` on one sample. -/
def rangeError (cfg : OperatorEstopConfig α) (buttons : List ℤ) : Option String :=
  if !indexOk buttons cfg.deadmanButton then
    some s!"deadman_button {cfg.deadmanButton} out of range for {buttons.length} buttons"
  else if !indexOk buttons cfg.estopButton then
    some s!"estop_button {cfg.estopButton} out of range for {buttons.length} buttons"
  else if 0 ≤ cfg.estopButtonAlt ∧ indexOk buttons cfg.estopButtonAlt = false then
    some s!"estop_button_alt {cfg.estopButtonAlt} out of range for {buttons.length} buttons"
  else
    (cfg.clearButtons.find? fun index => !indexOk buttons index).map fun index =>
      s!"clear button {index} out of range for {buttons.length} buttons"

omit [Field α] [LinearOrder α] in
/-- `operator_estop_config_error`: why the wiring is unusable, on its own and with a sample. -/
def operatorEstopConfigError (cfg : OperatorEstopConfig α) (buttons : Option (List ℤ)) :
    Option String :=
  if !cfg.enabled then none
  else match staticError cfg with
    | some error => some error
    | none =>
      match buttons with
      | none => none
      | some buttons => rangeError cfg buttons

/-! ## The latch -/

/-- The arming part of `operator_estop_step`, after the stop buttons and the clear chord. -/
def armStep (state : OperatorEstopState) (buttons : List ℤ) (axes : List (PyFloat α))
    (cfg : OperatorEstopConfig α) : OperatorEstopState × EstopAction × Bool :=
  let neutralSeen :=
    if !state.latched && !state.neutralSeen && isNeutral axes cfg then true else state.neutralSeen
  let armed :=
    if !state.latched && neutralSeen && rising state.prevButtons buttons cfg.deadmanButton then true
    else state.armed
  (⟨state.latched, neutralSeen, armed, some buttons⟩, .none, !state.latched && armed)

/-- `operator_estop_step`: the state after one sample, the wire action and whether motion is
allowed. -/
def operatorEstopStep (state : OperatorEstopState) (buttons : List ℤ) (axes : List (PyFloat α))
    (cfg : OperatorEstopConfig α) : OperatorEstopState × EstopAction × Bool :=
  if (operatorEstopConfigError cfg (some buttons)).isSome then
    ({ state with armed := false, neutralSeen := false, prevButtons := some buttons }, .none, false)
  else if cfg.enabled then
    if estopRising state.prevButtons buttons cfg.estopButton ||
        estopRising state.prevButtons buttons cfg.estopButtonAlt then
      (⟨true, false, false, some buttons⟩, .engage, false)
    else if state.latched && chordRising state.prevButtons buttons cfg.clearButtons &&
        !pressed buttons cfg.deadmanButton && !pressed buttons cfg.estopButton &&
        !pressed buttons cfg.estopButtonAlt then
      (⟨false, false, false, some buttons⟩, .clear, false)
    else armStep state buttons axes cfg
  else armStep state buttons axes cfg

/-- `operator_estop_disarm`: the stream went stale; the latch and the buttons survive. -/
def operatorEstopDisarm (state : OperatorEstopState) : OperatorEstopState :=
  { state with armed := false, neutralSeen := false }

/-- What moves the latch. -/
inductive JoyEvent (α : Type*)
  | sample (buttons : List ℤ) (axes : List (PyFloat α))
  | disarm

/-- The latch under one wiring; a sample puts out the action and the motion gate. -/
def estopMachine (cfg : OperatorEstopConfig α) :
    Machine OperatorEstopState (JoyEvent α) (Option (EstopAction × Bool)) where
  step state
    | .sample buttons axes =>
      ((operatorEstopStep state buttons axes cfg).1, some (operatorEstopStep state buttons axes cfg).2)
    | .disarm => (operatorEstopDisarm state, none)

end Model

end Joymap

end MiniatureWarehouse
