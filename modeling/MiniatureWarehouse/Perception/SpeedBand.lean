import MiniatureWarehouse.Framework.Runs
import MiniatureWarehouse.Framework.Values
import MiniatureWarehouse.Interfaces.Safety

/-!
# The speed band publisher

A gesture confirms one of three speed bands.  The band is held for a while after its last
confirmation, and then the stable band is back in force.  The node publishes the speed limit of the
band in force on a timer, and at once when a gesture changes the band.

`inForce` says which band that is from the gestures so far alone.  `limit_follows_bands` compares it
with the last limit published: they agree, or the hold of a faster or slower band has just run out
and the next timer message is still to come.
-/

namespace MiniatureWarehouse

namespace SpeedBand

variable {α : Type*} [Field α] [LinearOrder α] [IsStrictOrderedRing α]

/-- `BANDS`. -/
inductive Band
  | slowest
  | stable
  | fastest
  deriving DecidableEq, Repr

/-- The discriminator of a band. -/
def Band.name : Band → String
  | slowest => "slowest"
  | stable => "stable"
  | fastest => "fastest"

/-- The band of a name, if it is in `BANDS`. -/
def Band.ofName? (name : String) : Option Band :=
  [slowest, stable, fastest].find? fun band => band.name = name

/-! ## The band table -/

/-- `BandConfigError`, by what it refuses. -/
inductive BandConfigError (α : Type*)
  | notPositive (name : String) (value : PyFloat α)
  | aboveCap (vxMax : PyFloat α)
  | belowFloor (band : Band) (value floor : PyFloat α)
  | aboveVxMax (band : Band) (value vxMax : PyFloat α)
  | notMonotonic (slowest stable fastest : PyFloat α)
  | notPublishable (value : PyFloat α)

/-- The text of the error, for a way to write floats. -/
def BandConfigError.message (F : FloatFormat α) (text : PyFloat α → String) :
    BandConfigError α → String
  | notPositive name value => name ++ "=" ++ text value ++ " must be finite and > 0"
  | aboveCap vxMax => "operating_vx_max=" ++ text vxMax ++ " exceeds frozen MAX_LINEAR_VELOCITY=" ++
      text (maxLinearVelocity F) ++ " (config._validate_safety should have caught this)"
  | belowFloor band value floor =>
      "band." ++ band.name ++ "=" ++ text value ++ " is below v_floor=" ++ text floor
  | aboveVxMax band value vxMax =>
      "band." ++ band.name ++ "=" ++ text value ++ " exceeds operating_vx_max=" ++ text vxMax ++
        " (band must stay inside the approved envelope; ADR-0012 D4)"
  | notMonotonic slowest stable fastest =>
      "band table must be monotonic: slowest <= stable <= fastest (got " ++ text slowest ++ ", " ++
        text stable ++ ", " ++ text fastest ++ ")"
  | notPublishable value => "computed speed limit " ++ text value ++ " is not publishable"

/-- `BandTable`, with what its validation promises. -/
structure BandTable (F : FloatFormat α) where
  slowest : α
  stable : α
  fastest : α
  operatingVxMax : α
  vFloor : α
  floor_pos : 0 < vFloor
  floor_le : vFloor ≤ slowest
  slowest_le : slowest ≤ stable
  stable_le : stable ≤ fastest
  le_vxMax : fastest ≤ operatingVxMax
  vxMax_le : .fin operatingVxMax ≤ maxLinearVelocity F

/-- `require_finite_positive` of a float. -/
def requireFinitePositive (name : String) :
    PyFloat α → Except (BandConfigError α) (Set.Ioi (0 : α))
  | .fin x => if h : 0 < x then .ok ⟨x, h⟩ else .error (.notPositive name (.fin x))
  | value => .error (.notPositive name value)

/-- The body of the loop over the bands. -/
def requireBand (floor vxMax : α) (band : Band) (raw : PyFloat α) :
    Except (BandConfigError α) { x : α // floor ≤ x ∧ x ≤ vxMax } :=
  (requireFinitePositive ("band." ++ band.name) raw).bind fun value =>
    if hfloor : value.1 < floor then .error (.belowFloor band (.fin value.1) (.fin floor))
    else if hvx : vxMax < value.1 then .error (.aboveVxMax band (.fin value.1) (.fin vxMax))
    else .ok ⟨value.1, not_lt.mp hfloor, not_lt.mp hvx⟩

/-- `validate_band_table`. -/
def validateBandTable (F : FloatFormat α)
    (slowest stable fastest operatingVxMax vFloor : PyFloat α) :
    Except (BandConfigError α) (BandTable F) :=
  (requireFinitePositive "operating_vx_max" operatingVxMax).bind fun vxMax =>
    if hcap : maxLinearVelocity F < .fin vxMax.1 then .error (.aboveCap (.fin vxMax.1))
    else
      (requireFinitePositive "v_floor" vFloor).bind fun floor =>
        (requireBand floor.1 vxMax.1 .slowest slowest).bind fun a =>
          (requireBand floor.1 vxMax.1 .stable stable).bind fun b =>
            (requireBand floor.1 vxMax.1 .fastest fastest).bind fun c =>
              if hmono : a.1 ≤ b.1 ∧ b.1 ≤ c.1 then
                .ok ⟨a.1, b.1, c.1, vxMax.1, floor.1, floor.2, a.2.1, hmono.1, hmono.2, c.2.2,
                  PyFloat.le_of_not_lt (PyFloat.ne_nan_of_isFinite rfl) (F.round_ne_nan _) hcap⟩
              else .error (.notMonotonic (.fin a.1) (.fin b.1) (.fin c.1))

namespace BandTable

variable {F : FloatFormat α} (T : BandTable F)

/-- `value_for`. -/
def valueFor : Band → α
  | .slowest => T.slowest
  | .stable => T.stable
  | .fastest => T.fastest

/-- `compute_speed_limit`. -/
def computeSpeedLimit (band : Band) : Except (BandConfigError α) (PyFloat α) :=
  let value := PyFloat.pyMin (PyFloat.pyMin (.fin (T.valueFor band)) (.fin T.operatingVxMax))
    (maxLinearVelocity F)
  if value.isFinite && decide (.fin 0 < value) then .ok value else .error (.notPublishable value)

/-- Every band lies in the approved envelope. -/
lemma valueFor_mem (band : Band) :
    T.vFloor ≤ T.valueFor band ∧ T.valueFor band ≤ T.operatingVxMax := by
  have hslow := T.floor_le
  have hmiddle := T.slowest_le
  have hfast := T.stable_le
  have htop := T.le_vxMax
  cases band with
  | slowest => exact ⟨hslow, (hmiddle.trans hfast).trans htop⟩
  | stable => exact ⟨hslow.trans hmiddle, hfast.trans htop⟩
  | fastest => exact ⟨(hslow.trans hmiddle).trans hfast, htop⟩

/-- The limit of a band can always be published, and is the band's own value. -/
lemma computeSpeedLimit_eq (band : Band) :
    T.computeSpeedLimit band = .ok (.fin (T.valueFor band)) := by
  obtain ⟨hfloor, hvx⟩ := T.valueFor_mem band
  have hcap : .fin (T.valueFor band) ≤ maxLinearVelocity F :=
    PyFloat.le_trans (PyFloat.fin_le_fin.mpr hvx) T.vxMax_le
  have hpos : 0 < T.valueFor band := T.floor_pos.trans_le hfloor
  unfold computeSpeedLimit PyFloat.pyMin
  rw [if_neg (PyFloat.not_lt_of_le (PyFloat.fin_le_fin.mpr hvx)),
    if_neg (PyFloat.not_lt_of_le hcap)]
  exact if_pos (by simpa using hpos)

end BandTable

/-! ## The node -/

/-- `parse_band_event`: what the decoder refuses as no JSON is passed over. -/
def parseBandEvent (scan : JsonScan α) (payload : String) : Except PyErr (Option Band) :=
  match scan.loads payload with
  | .error .valueError => .ok none
  | .error .recursionError => .error .recursionError
  | .ok data =>
    .ok (match data.get? "event", data.get? "band" with
      | some (.str event), some (.str band) =>
        if event = "speed_band" then Band.ofName? band else none
      | _, _ => none)

/-- `BandHold`: the band confirmed last, and when. -/
structure BandHold (α : Type*) where
  band : Band
  confirmedAt : Option α

/-- The parameters of the node, and the decoder. -/
structure Publisher (F : FloatFormat α) where
  table : BandTable F
  holdTimeoutS : α
  hold_pos : 0 < holdTimeoutS
  scan : JsonScan α

/-- What happens to the node: a gesture event, with the reading of the clock when it is registered
and the one when a limit is published for it, or the timer. -/
inductive BandEvent (α : Type*)
  | gesture (payload : String) (heard published : α)
  | timer (now : α)

/-- The readings of the clock, in order. -/
def BandEvent.readings : BandEvent α → List α
  | .gesture _ heard published => [heard, published]
  | .timer now => [now]

/-- The node, and the limit its subscriber was told last. -/
structure Limiter (α : Type*) where
  hold : BandHold α
  limit : PyFloat α

namespace Publisher

variable {F : FloatFormat α} (P : Publisher F)

/-- `BandHold.current`. -/
def current (hold : BandHold α) (now : α) : Band :=
  match hold.confirmedAt with
  | none => .stable
  | some at' => if .fin P.holdTimeoutS < F.sub (.fin now) (.fin at') then .stable else hold.band

/-- `BandHold.on_band` of a known band. -/
def onBand (hold : BandHold α) (band : Band) (now : α) : BandHold α × Bool :=
  (⟨band, some now⟩, decide (band ≠ P.current hold now))

/-- `_publish_current`. -/
def publishCurrent (s : Limiter α) (now : α) : Limiter α × Except PyErr (Option (PyFloat α)) :=
  match P.table.computeSpeedLimit (P.current s.hold now) with
  | .error _ => (s, .error .valueError)
  | .ok value => ({ s with limit := value }, .ok (some value))

/-- `_on_gesture_event`. -/
def onGestureEvent (s : Limiter α) (payload : String) (heard published : α) :
    Limiter α × Except PyErr (Option (PyFloat α)) :=
  match parseBandEvent P.scan payload with
  | .error e => (s, .error e)
  | .ok none => (s, .ok none)
  | .ok (some band) =>
    let (hold, changed) := P.onBand s.hold band heard
    if changed then P.publishCurrent { s with hold := hold } published
    else ({ s with hold := hold }, .ok none)

/-- The node as a machine that puts out what it publishes. -/
def node : Machine (Limiter α) (BandEvent α) (Except PyErr (Option (PyFloat α))) where
  step s
    | .gesture payload heard published => P.onGestureEvent s payload heard published
    | .timer now => P.publishCurrent s now

/-- The node as it starts: it publishes the stable band at once. -/
def start : Limiter α := ⟨⟨.stable, none⟩, .fin P.table.stable⟩

/-! ## What the gestures say -/

/-- The confirmation an event makes. -/
def confirmation? : BandEvent α → Option (Band × α)
  | .gesture payload heard _ =>
    (parseBandEvent P.scan payload).toOption.join.map fun band => (band, heard)
  | .timer _ => none

/-- The last confirmation so far. -/
def lastConfirmed (past : List (BandEvent α)) : Option (Band × α) :=
  (past.filterMap P.confirmation?).getLast?

/-- The band in force: the one confirmed last, until its hold runs out. -/
def inForce (past : List (BandEvent α)) (t : α) : Band :=
  match P.lastConfirmed past with
  | none => .stable
  | some (band, heard) =>
    if .fin P.holdTimeoutS < F.sub (.fin t) (.fin heard) then .stable else band

/-- What the node announces for an event: on the timer the limit of the band in force, and for a
gesture that changes it the limit of the new one. -/
def announced (past : List (BandEvent α)) (e : BandEvent α) :
    Except PyErr (Option (PyFloat α)) :=
  match e with
  | .timer now => .ok (some (.fin (P.table.valueFor (P.inForce past now))))
  | .gesture payload heard published =>
    match parseBandEvent P.scan payload with
    | .error err => .error err
    | .ok none => .ok none
    | .ok (some band) =>
      if band = P.inForce past heard then .ok none
      else .ok (some (.fin (P.table.valueFor (P.inForce (past ++ [e]) published))))

variable {P}

lemma lastConfirmed_concat (past : List (BandEvent α)) (e : BandEvent α) :
    P.lastConfirmed (past ++ [e]) = (P.confirmation? e).or (P.lastConfirmed past) := by
  unfold lastConfirmed
  rw [List.filterMap_append, List.getLast?_append]
  cases h : P.confirmation? e <;> simp [h]

/-- A hold that has run out stays run out. -/
lemma expired_mono (P : Publisher F) {heard t u : α} (htu : t ≤ u)
    (h : .fin P.holdTimeoutS < F.sub (.fin t) (.fin heard)) :
    .fin P.holdTimeoutS < F.sub (.fin u) (.fin heard) := by
  have hsub : F.sub (.fin t) (.fin heard) ≤ F.sub (.fin u) (.fin heard) :=
    F.round_mono (add_le_add_left htu (-heard))
  exact PyFloat.lt_of_lt_of_le h hsub

/-- With time alone the band in force changes to the stable one at most. -/
lemma inForce_later (past : List (BandEvent α)) {t u : α} (htu : t ≤ u) :
    P.inForce past u = P.inForce past t ∨ P.inForce past u = .stable := by
  unfold inForce
  cases P.lastConfirmed past with
  | none => exact .inl rfl
  | some confirmed =>
    by_cases hu : .fin P.holdTimeoutS < F.sub (.fin u) (.fin confirmed.2)
    · exact .inr (if_pos hu)
    · have ht : ¬ .fin P.holdTimeoutS < F.sub (.fin t) (.fin confirmed.2) :=
        fun h => hu (P.expired_mono htu h)
      left
      show (if _ then Band.stable else confirmed.1) = if _ then Band.stable else confirmed.1
      rw [if_neg hu, if_neg ht]

/-- An event that confirms nothing leaves the band in force as it is. -/
lemma inForce_concat_of_none {past : List (BandEvent α)} {e : BandEvent α}
    (h : P.confirmation? e = none) (t : α) : P.inForce (past ++ [e]) t = P.inForce past t := by
  unfold inForce
  rw [lastConfirmed_concat, h, Option.none_or]

/-- A confirmed band is in force until its hold runs out. -/
lemma inForce_concat_of_some {past : List (BandEvent α)} {e : BandEvent α} {band : Band}
    {heard : α} (h : P.confirmation? e = some (band, heard)) (t : α) :
    P.inForce (past ++ [e]) t = P.current ⟨band, some heard⟩ t := by
  unfold inForce
  rw [lastConfirmed_concat, h, Option.some_or]
  rfl

/-- A hold shows its band or the stable one. -/
lemma current_eq_or (P : Publisher F) (band : Band) (heard t : α) :
    P.current ⟨band, some heard⟩ t = band ∨ P.current ⟨band, some heard⟩ t = .stable :=
  (ite_eq_or_eq _ _ _).symm

/-- What is published is the limit of the band the hold shows. -/
lemma publishCurrent_eq (P : Publisher F) (s : Limiter α) (now : α) :
    P.publishCurrent s now =
      ({ s with limit := .fin (P.table.valueFor (P.current s.hold now)) },
        .ok (some (.fin (P.table.valueFor (P.current s.hold now))))) := by
  rw [publishCurrent, P.table.computeSpeedLimit_eq]

/-! ## The node follows the gestures -/

/-- How the node stands to the events so far: the hold remembers the last confirmation, and the
limit is that of the band in force, or the stable band is in force. -/
structure Follows (P : Publisher F) (past : List (BandEvent α)) (s : Limiter α) : Prop where
  hold : ∀ t, P.current s.hold t = P.inForce past t
  limit : ∀ t, (∀ r ∈ past.flatMap BandEvent.readings, r ≤ t) →
    s.limit = .fin (P.table.valueFor (P.inForce past t)) ∨ P.inForce past t = .stable
  value : ∃ band, s.limit = .fin (P.table.valueFor band)

lemma follows_start (P : Publisher F) : P.Follows [] P.start where
  hold _ := rfl
  limit _ _ := .inl rfl
  value := ⟨.stable, rfl⟩

/-- Publishing restores the agreement, for every later time. -/
lemma follows_publish {past : List (BandEvent α)} {s : Limiter α}
    (hold : ∀ t, P.current s.hold t = P.inForce past t) {now : α}
    (hlast : now ∈ past.flatMap BandEvent.readings) :
    P.Follows past (P.publishCurrent s now).1 := by
  rw [P.publishCurrent_eq]
  refine ⟨hold, fun t ht => ?_, ⟨_, rfl⟩⟩
  rcases inForce_later past (ht now hlast) with hsame | hstable
  · left
    show PyFloat.fin (P.table.valueFor (P.current s.hold now)) = _
    rw [hold, hsame]
  · exact .inr hstable

/-- A payload that confirms nothing leaves the node as it is. -/
lemma follows_unheard {past : List (BandEvent α)} {s : Limiter α} (h : P.Follows past s)
    {e : BandEvent α} (hnone : P.confirmation? e = none) : P.Follows (past ++ [e]) s := by
  refine ⟨fun t => ?_, fun t ht => ?_, h.value⟩
  · rw [inForce_concat_of_none hnone, h.hold]
  · rw [inForce_concat_of_none hnone]
    refine h.limit t fun r hr => ht r ?_
    rw [List.flatMap_append]
    exact List.mem_append_left _ hr

/-- A confirmation of the band already in force publishes nothing, and need not. -/
lemma follows_confirmed_again {past : List (BandEvent α)} {s : Limiter α} (h : P.Follows past s)
    {payload : String} {heard published : α} (hparse :
      P.confirmation? (.gesture payload heard published) = some (P.inForce past heard, heard))
    (hpast : ∀ r ∈ past.flatMap BandEvent.readings, r ≤ heard) :
    P.Follows (past ++ [.gesture payload heard published])
      { s with hold := ⟨P.inForce past heard, some heard⟩ } := by
  refine ⟨fun t => (inForce_concat_of_some hparse t).symm, fun t _ => ?_, h.value⟩
  rw [inForce_concat_of_some hparse]
  rcases P.current_eq_or (P.inForce past heard) heard t with hband | hstable
  · rw [hband]
    exact h.limit heard hpast
  · exact .inr hstable

/-- What a gesture event does when the node follows the gestures so far. -/
lemma follows_onGestureEvent {past : List (BandEvent α)} {s : Limiter α} (h : P.Follows past s)
    (payload : String) (heard published : α)
    (hpast : ∀ r ∈ past.flatMap BandEvent.readings, r ≤ heard) :
    P.Follows (past ++ [.gesture payload heard published])
        (P.onGestureEvent s payload heard published).1 ∧
      (P.onGestureEvent s payload heard published).2 =
        P.announced past (.gesture payload heard published) := by
  simp only [onGestureEvent, announced]
  cases hparse : parseBandEvent P.scan payload with
  | error err =>
    exact ⟨follows_unheard h (by simp [confirmation?, hparse, Except.toOption]), rfl⟩
  | ok found =>
    cases found with
    | none =>
      exact ⟨follows_unheard h (by simp [confirmation?, hparse, Except.toOption]), rfl⟩
    | some band =>
      have hconfirmed : P.confirmation? (.gesture payload heard published) =
          some (band, heard) := by
        simp [confirmation?, hparse, Except.toOption]
      by_cases hchanged : band = P.inForce past heard
      · subst hchanged
        simp only [onBand, h.hold, ne_eq, not_true_eq_false, decide_false, if_true]
        exact ⟨follows_confirmed_again h hconfirmed hpast, rfl⟩
      · have hhold : ∀ t, P.current ⟨band, some heard⟩ t =
            P.inForce (past ++ [.gesture payload heard published]) t :=
          fun t => (inForce_concat_of_some hconfirmed t).symm
        simp only [onBand, h.hold, ne_eq, hchanged, not_false_eq_true, decide_true, if_true,
          if_false]
        refine ⟨follows_publish hhold ?_, ?_⟩
        · rw [List.flatMap_append]
          simp [BandEvent.readings]
        · rw [P.publishCurrent_eq, hhold]

/-- What the timer does when the node follows the gestures so far. -/
lemma follows_timer {past : List (BandEvent α)} {s : Limiter α} (h : P.Follows past s) (now : α) :
    P.Follows (past ++ [.timer now]) (P.publishCurrent s now).1 ∧
      (P.publishCurrent s now).2 = P.announced past (.timer now) := by
  have hhold : ∀ t, P.current s.hold t = P.inForce (past ++ [.timer now]) t := by
    intro t
    rw [inForce_concat_of_none rfl, h.hold]
  refine ⟨follows_publish hhold ?_, ?_⟩
  · rw [List.flatMap_append]
    simp [BandEvent.readings]
  · rw [P.publishCurrent_eq, h.hold]
    rfl

/-- The step lemma. -/
lemma follows_step {past : List (BandEvent α)} {s : Limiter α} (h : P.Follows past s)
    {e : BandEvent α} (hpast : ∀ r ∈ past.flatMap BandEvent.readings, ∀ r' ∈ e.readings, r ≤ r') :
    P.Follows (past ++ [e]) (P.node.step s e).1 ∧ (P.node.step s e).2 = P.announced past e := by
  cases e with
  | gesture payload heard published =>
    exact follows_onGestureEvent h payload heard published fun r hr =>
      hpast r hr heard List.mem_cons_self
  | timer now => exact follows_timer h now

/-- The run lemma. -/
lemma follows_run (P : Publisher F) (es : List (BandEvent α))
    (hclock : (es.flatMap BandEvent.readings).Pairwise (· ≤ ·)) :
    P.Follows es (P.node.run P.start es) := by
  revert hclock
  refine Machine.run_history (I := fun past s =>
    (past.flatMap BandEvent.readings).Pairwise (· ≤ ·) → P.Follows past s) ?_ ?_ es
  · intro _
    exact P.follows_start
  · intro past e ih hclock
    rw [List.flatMap_append, List.flatMap_singleton, List.pairwise_append] at hclock
    exact (follows_step (ih hclock.1) hclock.2.2).1

end Publisher

open Publisher in
/-- **The published limit follows the confirmed bands.**  While the clock does not go back, what
the node puts out for an event is what the gestures so far say.  The limit published last is that
of the band in force, unless the stable band is back in force and the timer has yet to say so.  It
is never outside the approved envelope. -/
theorem limit_follows_bands {F : FloatFormat α} (P : Publisher F) (es : List (BandEvent α))
    (e : BandEvent α)
    (hclock : ((es ++ [e]).flatMap BandEvent.readings).Pairwise (· ≤ ·)) :
    (P.node.step (P.node.run P.start es) e).2 = P.announced es e ∧
      (∀ t, (∀ r ∈ es.flatMap BandEvent.readings, r ≤ t) →
        (P.node.run P.start es).limit = .fin (P.table.valueFor (P.inForce es t)) ∨
          P.inForce es t = .stable) ∧
      ∃ v, (P.node.run P.start es).limit = .fin v ∧
        0 < v ∧ P.table.vFloor ≤ v ∧ v ≤ P.table.operatingVxMax ∧
        .fin v ≤ maxLinearVelocity F := by
  rw [List.flatMap_append, List.flatMap_singleton, List.pairwise_append] at hclock
  have hfollows : P.Follows es (P.node.run P.start es) := P.follows_run es hclock.1
  refine ⟨(follows_step hfollows hclock.2.2).2, hfollows.limit, ?_⟩
  obtain ⟨band, hband⟩ := hfollows.value
  obtain ⟨hfloor, hvx⟩ := P.table.valueFor_mem band
  exact ⟨_, hband, P.table.floor_pos.trans_le hfloor, hfloor, hvx,
    PyFloat.le_trans (PyFloat.fin_le_fin.mpr hvx) P.table.vxMax_le⟩

/-- The event of a confirmed fastest band. -/
def fastestPayload : String := "\x7b\"event\": \"speed_band\", \"band\": \"fastest\"\x7d"

/-- A decoder that knows this one text. -/
def fastestScan : JsonScan ℚ := fun text =>
  if text = fastestPayload then
    .ok (.dict [("event", .str "speed_band"), ("band", .str "fastest")])
  else .error .valueError

lemma twentieth_pos : (0 : ℚ) < 1 / 20 := by norm_num

/-- A publisher whose fastest band is the hard cap, held for two seconds. -/
def plainPublisher : Publisher (.exact ℚ) where
  table :=
    { slowest := 1 / 10, stable := 1 / 5, fastest := 3 / 10, operatingVxMax := 3 / 10,
      vFloor := 1 / 20, floor_pos := twentieth_pos, floor_le := by norm_num,
      slowest_le := by norm_num, stable_le := by norm_num, le_vxMax := le_rfl,
      vxMax_le := (le_refl (3 / 10 : ℚ) :) }
  holdTimeoutS := 2
  hold_pos := by norm_num
  scan := fastestScan

/-- The fastest band is confirmed at time one, and the timer at time four announces the stable
band again. -/
theorem limit_follows_bands_expired :
    (plainPublisher.node.step (plainPublisher.node.run plainPublisher.start
        [.gesture fastestPayload 1 1]) (.timer 4)).2 = .ok (some (.fin (1 / 5))) :=
  ((limit_follows_bands plainPublisher [.gesture fastestPayload 1 1] (.timer 4)
    (by decide)).1).trans (by decide +kernel)

end SpeedBand

end MiniatureWarehouse
