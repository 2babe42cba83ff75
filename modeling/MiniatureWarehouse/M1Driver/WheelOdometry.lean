import MiniatureWarehouse.Framework.Runs
import MiniatureWarehouse.Framework.Values

/-!
# Wheel odometry

The driver integrates the four cumulative wheel counters of the firmware into a planar pose.  The
counters are 32 bit wide and wrap around; a report may be malformed, early or late.  A report that
cannot be used is dropped, and the distance it carried is in the next one that can.

Dropping is meant to be total and atomic: no report raises, and a dropped one leaves no trace.  The
conversion of the counts has one hole.  A count that is not a number is a `ValueError`, which is
caught; an infinite one is an `OverflowError`, which is not.  `update_atomic_iff` says that these
reports, and an integer time beyond the floats, are the only ones the promise fails on.
-/

namespace MiniatureWarehouse

namespace Odometry

/-! ## Wheels and geometry -/

/-- One entry for each wheel in the motor order of the firmware: front left, rear left, front
right, rear right. -/
structure Wheels (β : Type*) where
  m1 : β
  m2 : β
  m3 : β
  m4 : β

/-- `_INT32_SPAN`. -/
def int32Span : ℤ := 2 ^ 32

/-- `_INT32_HALF_SPAN`. -/
def int32HalfSpan : ℤ := 2 ^ 31

/-- `_wrapped_delta`. -/
def wrappedDelta (current previous : ℤ) : ℤ :=
  let delta := (current - previous) % int32Span
  if int32HalfSpan ≤ delta then delta - int32Span else delta

section Model

variable {α : Type*} [Field α] [LinearOrder α] [IsStrictOrderedRing α]

/-- The measured geometry, as the constructor accepts it. -/
structure Geometry (α : Type*) [Field α] [LinearOrder α] where
  countsPerRev : α
  wheelDiameterM : α
  trackM : α
  countsPerRev_pos : 0 < countsPerRev
  wheelDiameterM_pos : 0 < wheelDiameterM
  trackM_pos : 0 < trackM
  signs : Wheels ℤˣ

omit [IsStrictOrderedRing α] in
/-- `_positive_geometry`. -/
def positiveGeometry : PyFloat α → Except PyErr {x : α // 0 < x}
  | .fin x => if h : 0 < x then .ok ⟨x, h⟩ else .error .valueError
  | _ => .error .valueError

/-- The sign of a wheel, exactly one or minus one. -/
def wheelSign (s : ℤ) : Except PyErr ℤˣ :=
  if s = 1 then .ok 1 else if s = -1 then .ok (-1) else .error .valueError

/-- `WheelOdometry.__init__`. -/
def Geometry.ofParams (countsPerRev wheelDiameterM trackM : PyFloat α) (wheelSigns : List ℤ) :
    Except PyErr (Geometry α) :=
  (positiveGeometry countsPerRev).bind fun c =>
  (positiveGeometry wheelDiameterM).bind fun d =>
  (positiveGeometry trackM).bind fun t =>
  match wheelSigns with
  | [s1, s2, s3, s4] =>
    (wheelSign s1).bind fun s1 =>
    (wheelSign s2).bind fun s2 =>
    (wheelSign s3).bind fun s3 =>
    (wheelSign s4).map fun s4 => ⟨c.1, d.1, t.1, c.2, d.2, t.2, ⟨s1, s2, s3, s4⟩⟩
  | _ => .error .valueError

omit [IsStrictOrderedRing α] in
lemma positiveGeometry_eq_ok {value : PyFloat α} {x : {x : α // 0 < x}}
    (h : positiveGeometry value = .ok x) : value = .fin x.1 := by
  cases value with
  | fin y =>
    rw [positiveGeometry] at h
    split_ifs at h with hpos
    rw [← Except.ok.inj h]
  | _ => cases h

lemma wheelSign_eq_ok {s : ℤ} {sign : ℤˣ} (h : wheelSign s = .ok sign) : s = sign := by
  unfold wheelSign at h
  split_ifs at h with hone hneg
  · rw [← Except.ok.inj h]
    exact hone
  · rw [← Except.ok.inj h]
    exact hneg

omit [IsStrictOrderedRing α] in
/-- An odometry is built with the measures it was given, or not at all. -/
lemma Geometry.ofParams_eq_ok {countsPerRev wheelDiameterM trackM : PyFloat α}
    {wheelSigns : List ℤ} {g : Geometry α}
    (h : Geometry.ofParams countsPerRev wheelDiameterM trackM wheelSigns = .ok g) :
    countsPerRev = .fin g.countsPerRev ∧ wheelDiameterM = .fin g.wheelDiameterM ∧
      trackM = .fin g.trackM ∧
      wheelSigns = [(g.signs.m1 : ℤ), (g.signs.m2 : ℤ), (g.signs.m3 : ℤ), (g.signs.m4 : ℤ)] := by
  obtain ⟨c, hc, h⟩ := exceptBind_eq_ok.mp h
  obtain ⟨d, hd, h⟩ := exceptBind_eq_ok.mp h
  obtain ⟨t, ht, h⟩ := exceptBind_eq_ok.mp h
  split at h
  · obtain ⟨s1, hs1, h⟩ := exceptBind_eq_ok.mp h
    obtain ⟨s2, hs2, h⟩ := exceptBind_eq_ok.mp h
    obtain ⟨s3, hs3, h⟩ := exceptBind_eq_ok.mp h
    obtain ⟨s4, hs4, rfl⟩ := exceptMap_eq_ok.mp h
    refine ⟨positiveGeometry_eq_ok hc, positiveGeometry_eq_ok hd, positiveGeometry_eq_ok ht, ?_⟩
    rw [wheelSign_eq_ok hs1, wheelSign_eq_ok hs2, wheelSign_eq_ok hs3, wheelSign_eq_ok hs4]
  · cases h

variable (F : FloatFormat α) (L : MathLib α) (pi : α)

/-- `_m_per_count`: the circumference of a wheel over the counts of a revolution. -/
def Geometry.mPerCount (g : Geometry α) : PyFloat α :=
  F.div (F.mul (.fin pi) (.fin g.wheelDiameterM)) (.fin g.countsPerRev)

/-! ## Reports -/

/-- A report of the counters, with the time it is handled at. -/
structure Report (α : Type*) where
  counts : List (PyNum α)
  time : PyVal α

/-- The time of a report, if it is a finite number; `float(t)` raises on an integer that is too
large. -/
def usableTime : PyVal α → Except PyErr (Option (PyFloat α))
  | .int i => (PyVal.toFloat F (.int i)).map some
  | .float x => .ok (if x.isFinite then some x else none)
  | _ => .ok none

section Counts

variable [FloorRing α]

/-- `int(c)` of a number. -/
def toInt : PyNum α → Except PyErr ℤ
  | .int i => .ok i
  | .float (.fin x) => .ok (if 0 ≤ x then ⌊x⌋ else ⌈x⌉)
  | .float .nan => .error .valueError
  | .float _ => .error .overflowError

/-- `c1, c2, c3, c4 = ...`. -/
def Wheels.ofList {β : Type*} : List β → Except PyErr (Wheels β)
  | [c1, c2, c3, c4] => .ok ⟨c1, c2, c3, c4⟩
  | _ => .error .valueError

/-- The counts of a report: four of them, converted one after another. -/
def readCounts (counts : List (PyNum α)) : Except PyErr (Wheels ℤ) :=
  if counts.length = 4 then (counts.mapM toInt).bind Wheels.ofList else .error .valueError

end Counts

/-! ## Integration -/

/-- `OdomSample`. -/
structure OdomSample (α : Type*) where
  x : PyFloat α
  y : PyFloat α
  yaw : PyFloat α
  vx : PyFloat α
  wz : PyFloat α
  dt : PyFloat α
  ds : PyFloat α
  dyaw : PyFloat α

/-- The state of `WheelOdometry`. -/
structure WheelOdometry (α : Type*) where
  x : PyFloat α
  y : PyFloat α
  yaw : PyFloat α
  prevCounts : Option (Wheels ℤ)
  prevT : Option (PyFloat α)

omit [LinearOrder α] [IsStrictOrderedRing α] in
/-- A new odometry. -/
def WheelOdometry.init : WheelOdometry α := ⟨.fin 0, .fin 0, .fin 0, none, none⟩

/-- The distance of one wheel. -/
def Geometry.distance (g : Geometry α) (sign : ℤˣ) (current previous : ℤ) :
    Except PyErr (PyFloat α) :=
  (PyVal.toFloat F (.int (sign * wrappedDelta current previous))).map fun counts =>
    F.mul counts (g.mPerCount F pi)

/-- The distances of all wheels. -/
def Geometry.distances (g : Geometry α) (current previous : Wheels ℤ) :
    Except PyErr (Wheels (PyFloat α)) :=
  (g.distance F pi g.signs.m1 current.m1 previous.m1).bind fun d1 =>
  (g.distance F pi g.signs.m2 current.m2 previous.m2).bind fun d2 =>
  (g.distance F pi g.signs.m3 current.m3 previous.m3).bind fun d3 =>
  (g.distance F pi g.signs.m4 current.m4 previous.m4).map fun d4 => ⟨d1, d2, d3, d4⟩

/-- The mean distance of the left side. -/
def Wheels.left (d : Wheels (PyFloat α)) : PyFloat α := F.div (F.add d.m1 d.m2) (.fin 2)

/-- The mean distance of the right side. -/
def Wheels.right (d : Wheels (PyFloat α)) : PyFloat α := F.div (F.add d.m3 d.m4) (.fin 2)

/-- The forward increment. -/
def Wheels.ds (d : Wheels (PyFloat α)) : PyFloat α := F.div (F.add (d.left F) (d.right F)) (.fin 2)

/-- The turn. -/
def Wheels.dyaw (g : Geometry α) (d : Wheels (PyFloat α)) : PyFloat α :=
  F.div (F.sub (d.right F) (d.left F)) (.fin g.trackM)

section Wrap

variable [FloorRing α]

/-- `x % y` of floats, for a divisor that is not zero: the exact remainder of the sign of the
divisor, rounded. -/
def pyMod : PyFloat α → PyFloat α → PyFloat α
  | .fin x, .fin y => F.round (x - y * ⌊x / y⌋)
  | .fin x, .posInf => if x < 0 then .posInf else .fin x
  | .fin x, .negInf => if 0 < x then .negInf else .fin x
  | _, _ => .nan

/-- The heading, wrapped only where it has left its range. -/
def wrapYaw (yaw : PyFloat α) : PyFloat α :=
  if PyFloat.fin pi < yaw ∨ yaw < PyFloat.fin (-pi) then
    F.sub (pyMod F (F.add yaw (.fin pi)) (F.mul (.fin 2) (.fin pi))) (.fin pi)
  else yaw

/-- The integration step of `update`, from the reference of the last usable report.  The quotients
by the time difference are taken where it is positive. -/
def WheelOdometry.integrate (g : Geometry α) (o : WheelOdometry α) (current previous : Wheels ℤ)
    (now prevT : PyFloat α) : Except PyErr (WheelOdometry α × Option (OdomSample α)) :=
  let dt := F.sub now prevT
  if dt ≤ .fin 0 then .ok (o, none)
  else
    (g.distances F pi current previous).bind fun distances =>
    let ds := distances.ds F
    let dyaw := distances.dyaw F g
    if ds.isFinite && dyaw.isFinite then
      let midYaw := F.add o.yaw (F.div dyaw (.fin 2))
      (trig L.cos midYaw).bind fun cos =>
      (trig L.sin midYaw).bind fun sin =>
      let o' : WheelOdometry α :=
        { x := F.add o.x (F.mul ds cos)
          y := F.add o.y (F.mul ds sin)
          yaw := wrapYaw F pi (F.add o.yaw dyaw)
          prevCounts := some current
          prevT := some now }
      .ok (o', some
        { x := o'.x
          y := o'.y
          yaw := o'.yaw
          vx := F.div ds dt
          wz := F.div dyaw dt
          dt := dt
          ds := ds
          dyaw := dyaw })
    else .ok (o, none)

/-- `WheelOdometry.update`. -/
def WheelOdometry.update (g : Geometry α) (o : WheelOdometry α) (r : Report α) :
    Except PyErr (WheelOdometry α × Option (OdomSample α)) :=
  (usableTime F r.time).bind fun now? =>
  match now? with
  | none => .ok (o, none)
  | some now =>
    match readCounts r.counts with
    | .error .typeError | .error .valueError => .ok (o, none)
    | .error e => .error e
    | .ok current =>
      match o.prevCounts, o.prevT with
      | some previous, some prevT => o.integrate F L pi g current previous now prevT
      | _, _ => .ok ({ o with prevCounts := some current, prevT := some now }, none)

/-- The odometry as a machine: what it puts out is what `update` returns or raises, and an
exception leaves the state as it was. -/
def odometry (g : Geometry α) :
    Machine (WheelOdometry α) (Report α) (Except PyErr (Option (OdomSample α))) where
  step o r :=
    match o.update F L pi g r with
    | .ok (o', sample?) => (o', .ok sample?)
    | .error e => (o, .error e)

end Wrap

/-! ## What the floats are like -/

/-- Half a turn, either way, and a whole one are floats. -/
structure HoldsTurns (F : FloatFormat α) (pi : α) : Prop where
  pi_pos : 0 < pi
  pi_rep : F.round pi = .fin pi
  neg_pi_rep : F.round (-pi) = .fin (-pi)
  two_pi_rep : F.round (2 * pi) = .fin (2 * pi)

/-- What the integration relies on of the floats beyond that.  They reach to twice `half`, which is
a float itself, and to a 32-bit count, and no result that is finite is out of reach. -/
structure DoubleRange (F : FloatFormat α) (pi half : α) : Prop extends HoldsTurns F pi where
  half_rep : F.round half = .fin half
  neg_half_rep : F.round (-half) = .fin (-half)
  pi_le_half : pi ≤ half
  counts_le : 2 ^ 31 ≤ 2 * half
  finite : ∀ x, |x| ≤ 2 * half → (F.round x).isFinite = true
  reach : ∀ x y, F.round x = .fin y → |y| ≤ 2 * half

/-- What is between two floats is rounded to something between them. -/
lemma round_between {F : FloatFormat α} {lo x hi : α} (hlo : F.round lo = .fin lo)
    (hhi : F.round hi = .fin hi) (hlox : lo ≤ x) (hxhi : x ≤ hi) :
    ∃ y, F.round x = .fin y ∧ lo ≤ y ∧ y ≤ hi := by
  have hbelow : F.round lo ≤ F.round x := F.round_mono hlox
  have habove : F.round x ≤ F.round hi := F.round_mono hxhi
  rw [hlo] at hbelow
  rw [hhi] at habove
  cases hround : F.round x with
  | fin y =>
    rw [hround] at hbelow habove
    exact ⟨y, rfl, hbelow, habove⟩
  | nan => exact absurd hround (F.round_ne_nan x)
  | posInf =>
    rw [hround] at habove
    exact absurd habove PyFloat.not_posInf_le_fin
  | negInf =>
    rw [hround] at hbelow
    exact absurd hbelow PyFloat.not_fin_le_negInf

/-- A heading within half a turn, or lost to an overflow. -/
def Heading (pi : α) (yaw : PyFloat α) : Prop := yaw = .nan ∨ ∃ y, yaw = .fin y ∧ |y| ≤ pi

/-- **The wrapped heading** is within half a turn, unless the sum has overflowed. -/
lemma HoldsTurns.wrapYaw [FloorRing α] {F : FloatFormat α} {pi : α} (hF : HoldsTurns F pi)
    (yaw : PyFloat α) : Heading pi (wrapYaw F pi yaw) := by
  have hwhole : F.mul (.fin 2) (.fin pi) = .fin (2 * pi) := hF.two_pi_rep
  have hpos : 0 < 2 * pi := mul_pos two_pos hF.pi_pos
  unfold Odometry.wrapYaw
  rw [hwhole]
  split_ifs with hout
  · cases hsum : F.add yaw (.fin pi) with
    | fin z =>
      -- the remainder is in a whole turn, and shifted by half a turn it is in range
      have hnonneg : 0 ≤ z - 2 * pi * ⌊z / (2 * pi)⌋ := by
        have hfloor : (⌊z / (2 * pi)⌋ : α) ≤ z / (2 * pi) := Int.floor_le _
        have hle : 2 * pi * ⌊z / (2 * pi)⌋ ≤ z := by
          calc 2 * pi * ⌊z / (2 * pi)⌋ ≤ 2 * pi * (z / (2 * pi)) :=
                mul_le_mul_of_nonneg_left hfloor hpos.le
            _ = z := mul_div_cancel₀ z hpos.ne'
        linarith
      have hlt : z - 2 * pi * ⌊z / (2 * pi)⌋ ≤ 2 * pi := by
        have hfloor : z / (2 * pi) < ⌊z / (2 * pi)⌋ + 1 := Int.lt_floor_add_one _
        have hle : z < 2 * pi * (⌊z / (2 * pi)⌋ + 1) := by
          rw [div_lt_iff₀ hpos] at hfloor
          linarith
        linarith
      obtain ⟨r, hr, hr0, hr1⟩ := round_between F.round_zero hF.two_pi_rep hnonneg hlt
      have hlow : -pi ≤ r + -pi := by linarith
      have hhigh : r + -pi ≤ pi := by linarith
      obtain ⟨y, hy, hy0, hy1⟩ := round_between hF.neg_pi_rep hF.pi_rep hlow hhigh
      refine .inr ⟨y, ?_, abs_le.mpr ⟨hy0, hy1⟩⟩
      have hmod : pyMod F (.fin z) (.fin (2 * pi)) = .fin r := hr
      rw [hmod]
      exact hy
    | nan => exact .inl rfl
    | posInf => exact .inl rfl
    | negInf => exact .inl rfl
  · cases yaw with
    | fin y =>
      rw [PyFloat.fin_lt_fin, PyFloat.fin_lt_fin, not_or, not_lt, not_lt] at hout
      exact .inr ⟨y, rfl, abs_le.mpr ⟨hout.2, hout.1⟩⟩
    | nan => exact .inl rfl
    | posInf => exact absurd (.inl PyFloat.fin_lt_posInf) hout
    | negInf => exact absurd (.inr trivial) hout

section Total

variable {F : FloatFormat α} {L : MathLib α} {pi half : α} (hF : DoubleRange F pi half)

include hF

/-- The quotient of anything by a number is within reach, if it is finite. -/
lemma DoubleRange.reach_div {a : PyFloat α} {y d : α} (h : F.div a (.fin y) = .fin d) :
    |d| ≤ 2 * half := by
  cases a with
  | fin x => exact hF.reach _ _ h
  | nan => cases h
  | posInf =>
    unfold FloatFormat.div at h
    dsimp only at h
    split_ifs at h
  | negInf =>
    unfold FloatFormat.div at h
    dsimp only at h
    split_ifs at h

/-- **Half a turn fits on top of a heading**: the middle heading is never infinite. -/
lemma DoubleRange.midYaw {yaw dyaw : PyFloat α} (hyaw : Heading pi yaw) {d : α}
    (hd : dyaw = .fin d) (hreach : |d| ≤ 2 * half) :
    F.add yaw (F.div dyaw (.fin 2)) = .nan ∨ ∃ m, F.add yaw (F.div dyaw (.fin 2)) = .fin m := by
  subst hd
  have hhalf : |d / 2| ≤ half := by
    rw [abs_div, abs_of_pos (two_pos : (0 : α) < 2), div_le_iff₀ two_pos]
    linarith
  obtain ⟨h, hround, hlo, hhi⟩ := round_between hF.neg_half_rep hF.half_rep
    (abs_le.mp hhalf).1 (abs_le.mp hhalf).2
  have hdiv : F.div (.fin d) (.fin 2) = .fin h := hround
  rw [hdiv]
  rcases hyaw with rfl | ⟨y, rfl, hy⟩
  · exact .inl rfl
  · right
    have hsum : |y + h| ≤ 2 * half := by
      calc |y + h| ≤ |y| + |h| := abs_add_le y h
        _ ≤ half + half := add_le_add (hy.trans hF.pi_le_half) (abs_le.mpr ⟨hlo, hhi⟩)
        _ = 2 * half := (two_mul half).symm
    exact PyFloat.isFinite_iff.mp (hF.finite _ hsum)

variable [FloorRing α]

omit [FloorRing α] in
/-- The distance of a wheel can always be taken: a folded count is no larger than its half span. -/
lemma DoubleRange.distance (g : Geometry α) (sign : ℤˣ) (current previous : ℤ) :
    ∃ d, g.distance F pi sign current previous = .ok d := by
  have hsmall : |(sign : ℤ) * wrappedDelta current previous| ≤ 2 ^ 31 := by
    have hsign : |(sign : ℤ)| = 1 := by
      rcases Int.units_eq_one_or sign with rfl | rfl <;> rfl
    rw [abs_mul, hsign, one_mul, abs_le]
    unfold wrappedDelta int32Span int32HalfSpan
    dsimp only
    split_ifs with hfold <;> omega
  have hcast : |(((sign : ℤ) * wrappedDelta current previous : ℤ) : α)| ≤ 2 * half := by
    refine le_trans ?_ hF.counts_le
    have hcast := (Int.cast_le (R := α)).mpr hsmall
    rwa [Int.cast_abs, Int.cast_pow, Int.cast_ofNat] at hcast
  unfold Geometry.distance
  rw [PyVal.toFloat, if_pos (hF.finite _ hcast)]
  exact ⟨_, rfl⟩

omit [FloorRing α] in
lemma DoubleRange.distances (g : Geometry α) (current previous : Wheels ℤ) :
    ∃ d, g.distances F pi current previous = .ok d := by
  obtain ⟨d1, h1⟩ := hF.distance g g.signs.m1 current.m1 previous.m1
  obtain ⟨d2, h2⟩ := hF.distance g g.signs.m2 current.m2 previous.m2
  obtain ⟨d3, h3⟩ := hF.distance g g.signs.m3 current.m3 previous.m3
  obtain ⟨d4, h4⟩ := hF.distance g g.signs.m4 current.m4 previous.m4
  refine ⟨⟨d1, d2, d3, d4⟩, ?_⟩
  unfold Geometry.distances
  rw [h1, h2, h3, h4]
  rfl

/-- **The integration step** returns, keeps the heading in range, and either integrates or changes
nothing. -/
lemma DoubleRange.integrate (g : Geometry α) {o : WheelOdometry α} (hyaw : Heading pi o.yaw)
    (current previous : Wheels ℤ) (now prevT : PyFloat α) :
    ∃ o' sample?, o.integrate F L pi g current previous now prevT = .ok (o', sample?) ∧
      Heading pi o'.yaw ∧
        (sample? = none ∧ o' = o ∨ sample? ≠ none ∧ o'.prevT = some now) := by
  obtain ⟨d, hd⟩ := hF.distances g current previous
  unfold WheelOdometry.integrate
  dsimp only
  rw [hd]
  split_ifs with hdt
  · exact ⟨o, none, rfl, hyaw, .inl ⟨rfl, rfl⟩⟩
  · show ∃ o' sample?, (if ((d.ds F).isFinite && (d.dyaw F g).isFinite) = true then _ else _) =
      Except.ok (o', sample?) ∧ _
    split_ifs with hfinite
    · obtain ⟨dyaw, hdyaw⟩ := PyFloat.isFinite_iff.mp (Bool.and_eq_true _ _ ▸ hfinite).2
      have hreach : |dyaw| ≤ 2 * half := hF.reach_div hdyaw
      have htrig : ∀ f : α → PyFloat α, ∃ v, trig f
          (F.add o.yaw (F.div (d.dyaw F g) (.fin 2))) = .ok v := by
        intro f
        rcases hF.midYaw hyaw hdyaw hreach with hmid | ⟨m, hmid⟩
        · exact ⟨.nan, by rw [hmid]; rfl⟩
        · exact ⟨f m, by rw [hmid]; rfl⟩
      obtain ⟨cos, hcos⟩ := htrig L.cos
      obtain ⟨sin, hsin⟩ := htrig L.sin
      rw [hcos, hsin]
      exact ⟨_, _, rfl, hF.wrapYaw _, .inr ⟨Option.some_ne_none _, rfl⟩⟩
    · exact ⟨o, none, rfl, hyaw, .inl ⟨rfl, rfl⟩⟩

end Total

/-! ## Reports that overflow -/

/-- A number that is no infinity and not missing. -/
def Readable : PyNum α → Prop
  | .int _ => True
  | .float x => x.isFinite = true

/-- A number beyond all integers. -/
def Infinite : PyNum α → Prop
  | .float .posInf => True
  | .float .negInf => True
  | _ => False

/-- A report whose conversion raises: its time is an integer that is no float, or the first of its
four counts that is no finite number is an infinity. -/
def Report.Overflows (F : FloatFormat α) (r : Report α) : Prop :=
  (∃ i, r.time = .int i ∧ (F.round i).isFinite = false) ∨
    ((∃ now, usableTime F r.time = .ok (some now)) ∧ r.counts.length = 4 ∧
      ∃ past c future, r.counts = past ++ c :: future ∧ (∀ b ∈ past, Readable b) ∧ Infinite c)

section Reading

variable [FloorRing α]

omit [IsStrictOrderedRing α] in
lemma toInt_eq_ok {c : PyNum α} : (∃ i, toInt c = .ok i) ↔ Readable c := by
  cases c with
  | int i => exact ⟨fun _ => trivial, fun _ => ⟨i, rfl⟩⟩
  | float x =>
    cases x with
    | fin x => exact ⟨fun _ => rfl, fun _ => ⟨_, rfl⟩⟩
    | _ =>
      constructor
      · rintro ⟨i, hi⟩
        cases hi
      · intro h
        cases h

omit [IsStrictOrderedRing α] in
lemma toInt_overflow {c : PyNum α} : toInt c = .error .overflowError ↔ Infinite c := by
  cases c with
  | int i =>
    constructor
    · intro h
      cases h
    · exact fun h => absurd h id
  | float x =>
    cases x with
    | posInf | negInf => exact ⟨fun _ => trivial, fun _ => rfl⟩
    | _ =>
      constructor
      · intro h
        cases h
      · exact fun h => absurd h id

omit [IsStrictOrderedRing α] in
lemma toInt_error {c : PyNum α} {e : PyErr} (h : toInt c = .error e) :
    e = .valueError ∨ e = .overflowError := by
  cases c with
  | int i => cases h
  | float x =>
    cases x with
    | fin x => cases h
    | nan => exact .inl (Except.error.inj h).symm
    | posInf | negInf => exact .inr (Except.error.inj h).symm

/-- What is converted in turn fails at the first element that does. -/
lemma mapM_eq_error {β γ ε : Type*} {f : β → Except ε γ} {xs : List β} {e : ε} :
    xs.mapM f = .error e ↔
      ∃ past x future, xs = past ++ x :: future ∧ (∀ y ∈ past, ∃ z, f y = .ok z) ∧
        f x = .error e := by
  induction xs with
  | nil =>
    constructor
    · intro h
      cases h
    · rintro ⟨past, x, future, h, -⟩
      exact absurd h.symm (List.append_ne_nil_of_right_ne_nil _ (List.cons_ne_nil _ _))
  | cons a as ih =>
    have hcons : (a :: as).mapM f = (f a).bind fun b => (as.mapM f).bind fun bs => .ok (b :: bs) :=
      List.mapM_cons
    rw [hcons]
    constructor
    · intro h
      cases ha : f a with
      | error e' =>
        rw [ha] at h
        obtain rfl : e' = e := Except.error.inj h
        exact ⟨[], a, as, rfl, fun y hy => absurd hy List.not_mem_nil, ha⟩
      | ok b =>
        rw [ha] at h
        cases has : as.mapM f with
        | ok bs =>
          rw [has] at h
          cases h
        | error e' =>
          rw [has] at h
          obtain rfl : e' = e := Except.error.inj h
          obtain ⟨past, x, future, rfl, hpast, hx⟩ := ih.mp has
          exact ⟨a :: past, x, future, rfl, List.forall_mem_cons.mpr ⟨⟨b, ha⟩, hpast⟩, hx⟩
    · rintro ⟨past, x, future, hsplit, hpast, hx⟩
      cases past with
      | nil =>
        obtain ⟨rfl, rfl⟩ := List.cons.inj hsplit
        rw [hx]
        rfl
      | cons y past =>
        obtain ⟨rfl, rfl⟩ := List.cons.inj hsplit
        obtain ⟨⟨b, hb⟩, hpast⟩ := List.forall_mem_cons.mp hpast
        have hrest : (past ++ x :: future).mapM f = .error e :=
          ih.mpr ⟨past, x, future, rfl, hpast, hx⟩
        rw [hb]
        show ((past ++ x :: future).mapM f).bind _ = _
        rw [hrest]
        rfl

omit [IsStrictOrderedRing α] in
/-- The counts are read, or fail for one of two reasons. -/
lemma readCounts_overflow {counts : List (PyNum α)} :
    readCounts counts = .error .overflowError ↔ counts.length = 4 ∧
      ∃ past c future, counts = past ++ c :: future ∧ (∀ b ∈ past, Readable b) ∧ Infinite c := by
  have hconvert : counts.mapM toInt = .error .overflowError ↔
      ∃ past c future, counts = past ++ c :: future ∧ (∀ b ∈ past, Readable b) ∧ Infinite c := by
    simp only [mapM_eq_error, toInt_eq_ok, toInt_overflow]
  rw [← hconvert]
  unfold readCounts
  split_ifs with hlength
  · rw [and_iff_right hlength]
    cases hread : counts.mapM toInt with
    | error e =>
      constructor
      · intro h
        rw [Except.error.inj h]
      · intro h
        rw [Except.error.inj h]
        rfl
    | ok is =>
      constructor
      · intro h
        rcases is with _ | ⟨a, _ | ⟨b, _ | ⟨c, _ | ⟨d, _ | ⟨x, is⟩⟩⟩⟩⟩ <;> cases h
      · intro h
        cases h
  · constructor
    · intro h
      cases h
    · exact fun h => absurd h.1 hlength

omit [IsStrictOrderedRing α] in
lemma readCounts_error {counts : List (PyNum α)} {e : PyErr} (h : readCounts counts = .error e) :
    e = .valueError ∨ e = .overflowError := by
  unfold readCounts at h
  split_ifs at h with hlength
  · cases hread : counts.mapM toInt with
    | error e' =>
      rw [hread] at h
      obtain rfl : e' = e := Except.error.inj h
      obtain ⟨past, c, future, -, -, hc⟩ := mapM_eq_error.mp hread
      exact toInt_error hc
    | ok is =>
      rw [hread] at h
      left
      rcases is with _ | ⟨a, _ | ⟨b, _ | ⟨c, _ | ⟨d, _ | ⟨x, is⟩⟩⟩⟩⟩ <;>
        first | exact (Except.error.inj h).symm | cases h
  · exact .inl (Except.error.inj h).symm

/-- What a report reads, if its time and its counts can be used. -/
def Report.reading (F : FloatFormat α) (r : Report α) : Option (Wheels ℤ × PyFloat α) :=
  match usableTime F r.time, readCounts r.counts with
  | .ok (some now), .ok current => some (current, now)
  | _, _ => none

end Reading

/-! ## Totality and atomicity -/

section Atomic

variable [FloorRing α]

omit [FloorRing α] in
lemma usableTime_error {F : FloatFormat α} {t : PyVal α} {e : PyErr}
    (h : usableTime F t = .error e) :
    e = .overflowError ∧ ∃ i, t = .int i ∧ (F.round i).isFinite = false := by
  cases t with
  | int i =>
    have h := exceptMap_eq_error.mp h
    rw [PyVal.toFloat] at h
    split_ifs at h with hfinite
    exact ⟨(Except.error.inj h).symm, i, rfl, Bool.eq_false_iff.mpr hfinite⟩
  | _ => cases h

/-- What every state of a run has: a heading in range, and the two halves of a reference together. -/
structure Sound (pi : α) (o : WheelOdometry α) : Prop where
  heading : Heading pi o.yaw
  reference : o.prevT = none → o.prevCounts = none

/-- **What `update` promises** of a report: it returns, and if it returns no sample, it has either
changed nothing or stored the report as its first reference. -/
def Atomic (F : FloatFormat α) (L : MathLib α) (pi : α) (g : Geometry α) (o : WheelOdometry α)
    (r : Report α) : Prop :=
  ∃ o' sample?, o.update F L pi g r = .ok (o', sample?) ∧
    (sample? = none → o' = o ∨ o.prevCounts = none ∧ ∃ current now,
      r.reading F = some (current, now) ∧
        o' = { o with prevCounts := some current, prevT := some now })

variable {F : FloatFormat α} (L : MathLib α) {pi half : α} (g : Geometry α)

/-- A report that overflows raises. -/
lemma update_overflows (o : WheelOdometry α) {r : Report α} (h : r.Overflows F) :
    o.update F L pi g r = .error .overflowError := by
  unfold WheelOdometry.update
  rcases h with ⟨i, hi, hinfinite⟩ | ⟨⟨now, hnow⟩, hlength, hcounts⟩
  · have htime : usableTime F r.time = .error .overflowError := by
      rw [hi]
      refine exceptMap_eq_error.mpr ?_
      rw [PyVal.toFloat, if_neg (Bool.eq_false_iff.mp hinfinite)]
    rw [htime]
    rfl
  · rw [hnow]
    dsimp only [Except.bind]
    rw [readCounts_overflow.mpr ⟨hlength, hcounts⟩]

/-- **One step.**  A report that does not overflow is handled as promised, and the state stays
sound. -/
lemma update_step (hF : DoubleRange F pi half) {o : WheelOdometry α} (ho : Sound pi o)
    {r : Report α} (h : ¬ r.Overflows F) :
    ∃ o' sample?, o.update F L pi g r = .ok (o', sample?) ∧ Sound pi o' ∧
      (sample? = none → o' = o ∨ o.prevCounts = none ∧ ∃ current now,
        r.reading F = some (current, now) ∧
          o' = { o with prevCounts := some current, prevT := some now }) := by
  unfold WheelOdometry.update
  cases htime : usableTime F r.time with
  | error e => exact absurd (.inl (usableTime_error htime).2) h
  | ok now? =>
    cases now? with
    | none => exact ⟨o, none, rfl, ho, fun _ => .inl rfl⟩
    | some now =>
      dsimp only [Except.bind]
      cases hcounts : readCounts r.counts with
      | error e =>
        rcases readCounts_error hcounts with rfl | rfl
        · exact ⟨o, none, rfl, ho, fun _ => .inl rfl⟩
        · exact absurd (.inr ⟨⟨now, htime⟩, readCounts_overflow.mp hcounts⟩) h
      | ok current =>
        have hreading : r.reading F = some (current, now) := by
          unfold Report.reading
          rw [htime, hcounts]
        dsimp only
        cases hprevious : o.prevCounts with
        | none =>
          refine ⟨_, none, rfl, ⟨ho.heading, fun h => by cases h⟩, fun _ => .inr ?_⟩
          exact ⟨rfl, current, now, hreading, rfl⟩
        | some previous =>
          cases hprevT : o.prevT with
          | none =>
            have hnone := ho.reference hprevT
            rw [hprevious] at hnone
            cases hnone
          | some prevT =>
            obtain ⟨o', sample?, hstep, hyaw, hcase⟩ :=
              hF.integrate (L := L) g ho.heading current previous now prevT
            refine ⟨o', sample?, hstep, ?_⟩
            rcases hcase with ⟨-, rfl⟩ | ⟨hsample, hnow⟩
            · exact ⟨ho, fun _ => .inl rfl⟩
            · refine ⟨⟨hyaw, fun hnone => ?_⟩, fun hnone => absurd hnone hsample⟩
              rw [hnow] at hnone
              cases hnone

/-- Every state of a run is sound. -/
lemma sound_run (hF : DoubleRange F pi half) (reports : List (Report α)) :
    Sound pi ((odometry F L pi g).run .init reports) := by
  have hinit : Sound pi (WheelOdometry.init : WheelOdometry α) := by
    refine ⟨.inr ⟨0, rfl, ?_⟩, fun _ => rfl⟩
    rw [abs_zero]
    exact hF.pi_pos.le
  have hstep : ∀ o r, True → Sound pi o → Sound pi ((odometry F L pi g).step o r).1 := by
    intro o r _ ho
    unfold odometry
    dsimp only
    by_cases h : r.Overflows F
    · rw [update_overflows L g o h]
      exact ho
    · obtain ⟨o', sample?, hupdate, ho', -⟩ := update_step L g hF ho h
      rw [hupdate]
      exact ho'
  have hall : (odometry F L pi g).AllSteps (fun _ _ => True) WheelOdometry.init reports :=
    Machine.allSteps_of_forall _ _ fun _ _ => trivial
  exact Machine.run_invariant hstep hall hinit

/-- **When the promise is kept.**  In every state a run can reach, `update` is total and atomic on
exactly the reports that do not overflow: it raises on an infinite count that is converted, and on
an integer time beyond the floats. -/
theorem update_atomic_iff (hF : DoubleRange F pi half) (reports : List (Report α))
    (r : Report α) :
    Atomic F L pi g ((odometry F L pi g).run .init reports) r ↔ ¬ r.Overflows F := by
  constructor
  · rintro ⟨o', sample?, hupdate, -⟩ hoverflows
    rw [update_overflows L g _ hoverflows] at hupdate
    cases hupdate
  · intro h
    obtain ⟨o', sample?, hupdate, -, hkept⟩ := update_step L g hF (sound_run L g hF reports) h
    exact ⟨o', sample?, hupdate, hkept⟩

end Atomic

end Model

/-! ### An infinite count -/

section Bounded

variable {α : Type*} [Field α] [LinearOrder α] [IsStrictOrderedRing α]

lemma clip_of_abs_le {limit x : α} (h : |x| ≤ limit) : FloatFormat.clip limit x = .fin x := by
  obtain ⟨hlow, hhigh⟩ := abs_le.mp h
  rw [FloatFormat.clip, if_neg (not_lt.mpr hhigh), if_neg (not_lt.mpr hlow)]

/-- Exact arithmetic within a bound is like the floats, if the bound is far enough. -/
lemma doubleRange_bounded {pi half : α} (hpi : 0 < pi) (hle : pi ≤ half)
    (hcounts : 2 ^ 31 ≤ 2 * half) (hlimit : 0 ≤ 2 * half) :
    DoubleRange (.bounded (2 * half) hlimit) pi half := by
  have hhalf : half ≤ 2 * half := by linarith
  have habs : |half| = half := abs_of_nonneg (hpi.le.trans hle)
  have habs' : |pi| = pi := abs_of_pos hpi
  refine ⟨⟨hpi, clip_of_abs_le ?_, clip_of_abs_le ?_, clip_of_abs_le ?_⟩, clip_of_abs_le ?_,
    clip_of_abs_le ?_, hle, hcounts, ?_, ?_⟩
  · rw [habs']
    exact hle.trans hhalf
  · rw [abs_neg, habs']
    exact hle.trans hhalf
  · rw [abs_mul, habs', abs_of_pos two_pos]
    exact mul_le_mul_of_nonneg_left hle two_pos.le
  · rw [habs]
    exact hhalf
  · rw [abs_neg, habs]
    exact hhalf
  · intro x hx
    show (FloatFormat.clip (2 * half) x).isFinite = true
    rw [clip_of_abs_le hx]
    rfl
  · intro x y h
    have hclip : FloatFormat.clip (2 * half) x = .fin y := h
    unfold FloatFormat.clip at hclip
    split_ifs at hclip with hbig hsmall
    rw [← PyFloat.fin.inj hclip]
    exact abs_le.mpr ⟨not_lt.mp hsmall, not_lt.mp hbig⟩

end Bounded

/-- `math.pi`. -/
def mathPi : ℚ := 884279719003555 / 2 ^ 48

/-- Half of the largest double. -/
def halfMax : ℚ := 2 ^ 1023 - 2 ^ 970

lemma mathPi_pos : 0 < mathPi := by
  unfold mathPi
  positivity

lemma le_halfMax : 2 ^ 31 ≤ halfMax := by
  have hstep : (2 : ℚ) ^ 971 ≤ 2 ^ 1023 := pow_le_pow_right₀ one_le_two (by omega)
  have hsmall : (2 : ℚ) ^ 31 ≤ 2 ^ 970 := pow_le_pow_right₀ one_le_two (by omega)
  have hdouble : (2 : ℚ) ^ 971 = 2 * 2 ^ 970 := pow_succ' 2 970
  have htwice : (2 : ℚ) ^ 31 + 2 ^ 970 ≤ 2 ^ 1023 :=
    calc (2 : ℚ) ^ 31 + 2 ^ 970 ≤ 2 ^ 970 + 2 ^ 970 := add_le_add_left hsmall _
      _ = 2 ^ 971 := by rw [hdouble, two_mul]
      _ ≤ 2 ^ 1023 := hstep
  exact le_sub_iff_add_le.mpr htwice

lemma mathPi_le_halfMax : mathPi ≤ halfMax := by
  refine le_trans ?_ le_halfMax
  unfold mathPi
  norm_num

lemma counts_le_twice_halfMax : 2 ^ 31 ≤ 2 * halfMax := by
  have hle := le_halfMax
  have hpos : (0 : ℚ) ≤ halfMax := mathPi_pos.le.trans mathPi_le_halfMax
  linarith

lemma twice_halfMax_nonneg : 0 ≤ 2 * halfMax :=
  le_trans (by positivity) counts_le_twice_halfMax

/-- Exact arithmetic within the range of the doubles. -/
def doubles : FloatFormat ℚ := .bounded (2 * halfMax) twice_halfMax_nonneg

lemma doubles_range : DoubleRange doubles mathPi halfMax :=
  doubleRange_bounded mathPi_pos mathPi_le_halfMax counts_le_twice_halfMax twice_halfMax_nonneg

/-- A cart of unit measures. -/
def unitCart : Geometry ℚ := ⟨1, 1, 1, rat_one_pos, rat_one_pos, rat_one_pos, ⟨1, 1, 1, 1⟩⟩

theorem update_atomic_iff_rest :
    Atomic doubles .rational mathPi unitCart
        ((odometry doubles .rational mathPi unitCart).run .init [])
        ⟨[.int 0, .int 0, .int 0, .int 0], .float (.fin 0)⟩ ↔
      ¬ Report.Overflows doubles ⟨[.int 0, .int 0, .int 0, .int 0], .float (.fin 0)⟩ :=
  update_atomic_iff .rational unitCart doubles_range [] _

/-- **An infinite count escapes** from a new odometry. -/
theorem infinite_count_raises :
    ¬ Atomic doubles .rational mathPi unitCart .init
      ⟨[.float .posInf, .int 0, .int 0, .int 0], .float (.fin 0)⟩ := by
  have hoverflows : Report.Overflows doubles
      ⟨[.float .posInf, .int 0, .int 0, .int 0], .float (.fin 0)⟩ :=
    .inr ⟨⟨.fin 0, rfl⟩, rfl, [], .float .posInf, [.int 0, .int 0, .int 0], rfl,
      fun _ h => absurd h List.not_mem_nil, trivial⟩
  rintro ⟨o', sample?, hupdate, -⟩
  rw [update_overflows .rational unitCart .init hoverflows] at hupdate
  cases hupdate

end Odometry

end MiniatureWarehouse
