import MiniatureWarehouse.Interfaces.Safety

/-!
# The driver core of the M1

The command path from a velocity command to the serial backend: the clamp of the body velocity,
the wheel scale, the command watchdog, and the stop overlay.  A call of the core is a function
from its state and the clock reading to the next state and the calls it makes on the backend.
-/

namespace MiniatureWarehouse

namespace M1Driver

/-- The calls the core makes on its backend. -/
inductive BackendCall (α : Type*)
  | stopBrake
  | setBodyVelocity (vx vy wz : PyFloat α)
  | resetState
  deriving DecidableEq

section Clamp

variable {α : Type*} [Field α] [LinearOrder α] [IsStrictOrderedRing α]
  (F : FloatFormat α) (L : MathLib α)

/-- `_scale_to_magnitude`: the planar vector scaled down to the ceiling, with one repair of a
result that rounding left above it. -/
def scaleToMagnitude (vx vy maxMagnitude : PyFloat α) : PyFloat α × PyFloat α :=
  let stop := (.fin 0, .fin 0)
  if !(vx.isFinite && vy.isFinite) then stop
  else if !maxMagnitude.isFinite || decide (maxMagnitude ≤ .fin 0) then stop
  else
    let magnitude := L.hypot vx vy
    if !magnitude.isFinite then stop
    else if magnitude ≤ maxMagnitude then (vx, vy)
    else
      let scale := F.div maxMagnitude magnitude
      let sx := F.mul vx scale
      let sy := F.mul vy scale
      let scaledMagnitude := L.hypot sx sy
      if maxMagnitude < scaledMagnitude then
        let repair := F.div maxMagnitude scaledMagnitude
        let rx := F.mul sx repair
        let ry := F.mul sy repair
        if maxMagnitude < L.hypot rx ry then stop else (rx, ry)
      else (sx, sy)

/-- `clamp_body_velocity`: one unknown component stops the whole command. -/
def clampBodyVelocity (vx vy wz : PyFloat α) : PyFloat α × PyFloat α × PyFloat α :=
  if vx.isFinite && vy.isFinite && wz.isFinite then
    let (cx, cy) := scaleToMagnitude F L vx vy (maxLinearVelocity F)
    (cx, cy, wz)
  else (.fin 0, .fin 0, .fin 0)

end Clamp

section Core

variable {α : Type*} [Field α] [LinearOrder α]

/-- `_positive_or_default`: a timeout that would disarm its guard is replaced. -/
def positiveOrDefault (value default : PyFloat α) : PyFloat α :=
  if !value.isFinite || decide (value ≤ .fin 0) then default else value

/-- `DEFAULT_CMD_TIMEOUT_S`. -/
def defaultCmdTimeoutS : PyFloat α := .fin (1 / 2)

/-- Why a drivetrain scale is unusable. -/
inductive ScaleError (α : Type*)
  | notFinite (name : String)
  | outsideRange (name : String) (lo hi : α)

/-- `_validated_scale`: the scale, or `NaN` with the reason it is refused. -/
def validatedScale (value : PyFloat α) (lo hi : α) (name : String) :
    PyFloat α × Option (ScaleError α) :=
  if !value.isFinite then (.nan, some (.notFinite name))
  else if ¬ (.fin lo ≤ value ∧ value ≤ .fin hi) then (.nan, some (.outsideRange name lo hi))
  else (value, none)

/-- The constructor arguments of `M1DriverCore`. -/
structure Config (α : Type*) where
  cmdTimeoutS : PyFloat α
  stopOverlayEnabled : Bool
  wheelScale : PyFloat α
  yawScale : PyFloat α
  lateralEnabled : Bool

namespace Config

variable (cfg : Config α)

/-- The command timeout in use. -/
def timeout : PyFloat α := positiveOrDefault cfg.cmdTimeoutS defaultCmdTimeoutS

/-- The wheel scale, between `WHEEL_SCALE_MIN` and `WHEEL_SCALE_MAX`. -/
def wheel : PyFloat α × Option (ScaleError α) :=
  validatedScale cfg.wheelScale 1 (5 / 2) "wheel_scale"

/-- The yaw scale, between `YAW_SCALE_MIN` and `YAW_SCALE_MAX`. -/
def yaw : PyFloat α × Option (ScaleError α) :=
  validatedScale cfg.yawScale (1 / 5) 5 "yaw_scale"

/-- `config_error`: the reasons the drivetrain is unusable, empty when it is usable. -/
def configError : List (ScaleError α) := cfg.wheel.2.toList ++ cfg.yaw.2.toList

end Config

/-- The state of `M1DriverCore`. -/
structure Core (α : Type*) where
  lastCmdTime : Option (PyFloat α)
  stale : Bool
  shutdownDone : Bool
  overlayPermitUntil : Option (PyFloat α)
  overlayDeadlineWatermark : Option (PyFloat α)

namespace Core

/-- A fresh core: no command yet, no permission yet. -/
def init : Core α := ⟨none, true, false, none, none⟩

variable (cfg : Config α) (c : Core α)

/-- Is a deadline behind the highest one accepted so far? -/
def regressed (validUntil : PyFloat α) : Bool :=
  match c.overlayDeadlineWatermark with
  | none => false
  | some watermark => decide (validUntil < watermark)

/-- `on_stop_state`: an invalid or regressing deadline revokes the permission; a valid one moves
the watermark, and grants permission unless a stop is requested. -/
def onStopState (stopRequested : Bool) (validUntil : PyFloat α) : Core α :=
  if !cfg.stopOverlayEnabled then c
  else if !validUntil.isFinite || decide (validUntil ≤ .fin 0) || c.regressed validUntil then
    { c with overlayPermitUntil := none }
  else
    { c with
      overlayDeadlineWatermark := some validUntil
      overlayPermitUntil := if stopRequested then none else some validUntil }

/-- `_overlay_blocks`: does the overlay demand zero output at this time? -/
def overlayBlocks (now : PyFloat α) : Bool :=
  if !cfg.stopOverlayEnabled then false
  else match c.overlayPermitUntil with
    | none => true
    | some permitUntil => decide (permitUntil < now)

variable [IsStrictOrderedRing α] (F : FloatFormat α) (L : MathLib α)

/-- `_to_wire`: the clamped body velocity divided by the drivetrain scales. -/
def toWire (v : PyFloat α × PyFloat α × PyFloat α) : BackendCall α :=
  .setBodyVelocity (F.div v.1 cfg.wheel.1) (F.div v.2.1 cfg.wheel.1)
    (F.div v.2.2 (F.mul cfg.wheel.1 cfg.yaw.1))

/-- `on_cmd_vel`: config error, then overlay, then clamp and wire conversion. -/
def onCmdVel (vx vy wz now : PyFloat α) : Core α × List (BackendCall α) :=
  let c := { c with lastCmdTime := some now, stale := false }
  if cfg.configError ≠ [] then (c, [.stopBrake])
  else
    let vy := if !cfg.lateralEnabled && vy.isFinite then .fin 0 else vy
    if c.overlayBlocks cfg now then (c, [.stopBrake])
    else (c, [toWire cfg F (clampBodyVelocity F L vx vy wz)])

/-- Did a command arrive within the timeout? -/
def fresh (now : PyFloat α) : Bool :=
  match c.lastCmdTime with
  | none => false
  | some last => decide (F.sub now last ≤ cfg.timeout)

/-- `on_watchdog_tick`: brake while the command stream is stale or the overlay blocks. -/
def onWatchdogTick (now : PyFloat α) : Core α × List (BackendCall α) :=
  let fresh := c.fresh cfg F now
  let c := { c with stale := c.stale || !fresh }
  if cfg.configError = [] ∧ fresh = true ∧ c.overlayBlocks cfg now = false then (c, [])
  else (c, [.stopBrake])

/-- `shutdown_sequence`: brake and reset, once. -/
def shutdownSequence : Core α × List (BackendCall α) :=
  if c.shutdownDone then (c, [])
  else ({ c with shutdownDone := true }, [.stopBrake, .resetState])

end Core

end Core

end M1Driver

end MiniatureWarehouse
