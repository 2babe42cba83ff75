import MiniatureWarehouse.Framework.Runs
import MiniatureWarehouse.M1Driver.DriverCore
import Mathlib.Algebra.Order.Field.Rat

/-!
# The stop overlay end to end

The decoder of the stop-state channel, the callbacks of the driver node, and what they guarantee
together: over every interleaving of stop-state payloads, commands and ticks, the driver only
moves under a permission that the most recent payload granted and that has not run out.

The channel permits driving, so the decoder answers everything it cannot fully understand with a
revocation, and none of the exceptions its parts raise may escape from it.  It is written here
with those exceptions explicit, the clauses that catch them included, so that this is a theorem
(`decodeStopState_ok`) and not a convention.
-/

namespace MiniatureWarehouse

namespace M1Driver

section Decode

variable {α : Type*} [Field α] [LinearOrder α] [IsStrictOrderedRing α]
  (F : FloatFormat α) (scan : JsonScan α)

/-- `DEFAULT_STOP_STATE_MAX_VALIDITY_S`. -/
def defaultStopStateMaxValidityS : PyFloat α := .fin (1 / 2)

/-- `_revoke`: the arguments that make the core drop its permission at once. -/
def revoke : Bool × PyFloat α := (true, .nan)

/-- The deadline of a payload as a float; a number too large for one raises. -/
def deadline? : PyVal α → Except PyErr (Option (PyFloat α))
  | .bool _ => .ok none
  | .int i => (PyVal.toFloat F (.int i)).map some
  | .float x => .ok (some x)
  | _ => .ok none

/-- `decode_stop_state`: exactly the contracted shape is passed on, with its deadline clipped to
the ceiling; everything else revokes. -/
def decodeStopState (payload : String) (now maxValidityS : PyFloat α) :
    Except PyErr (Bool × PyFloat α) :=
  match (scan.loadsUnique payload).mapError LoadsErr.toPyErr with
  | .error .recursionError => .ok revoke
  | .error .typeError | .error .valueError => .ok revoke
  | .error e => .error e
  | .ok decoded =>
    match decoded.get? "stop_requested", decoded.get? "valid_until" with
    | some (.bool stopRequested), some validUntil =>
      match deadline? F validUntil with
      | .error .overflowError | .error .valueError => .ok revoke
      | .error e => .error e
      | .ok none => .ok revoke
      | .ok (some validUntil) =>
        if !validUntil.isFinite || decide (validUntil ≤ .fin 0) then .ok revoke
        else
          let ceiling := F.add now (positiveOrDefault maxValidityS defaultStopStateMaxValidityS)
          .ok (stopRequested, PyFloat.pyMin validUntil ceiling)
    | _, _ => .ok revoke

variable {F scan}

/-- The only exception in a deadline is the overflow of an integer. -/
lemma deadline?_error {v : PyVal α} {e : PyErr} (h : deadline? F v = .error e) :
    e = .overflowError := by
  cases v with
  | int i =>
    simp only [deadline?, PyVal.toFloat] at h
    split_ifs at h with hfin
    · cases h
    · exact (Except.error.inj h).symm
  | null => cases h
  | bool b => cases h
  | float x => cases h
  | str s => cases h
  | list xs => cases h
  | dict es => cases h

variable (F scan) in
/-- **Specification of the decoder.**  A payload revokes, or it is passed on with the smaller of
its deadline and the ceiling. -/
lemma decodeStopState_cases (payload : String) (now maxValidityS : PyFloat α) :
    decodeStopState F scan payload now maxValidityS = .ok revoke ∨
      ∃ b x, decodeStopState F scan payload now maxValidityS = .ok (b, PyFloat.pyMin (.fin x)
        (F.add now (positiveOrDefault maxValidityS defaultStopStateMaxValidityS))) := by
  unfold decodeStopState
  cases hload : scan.loadsUnique payload with
  | error e => cases e <;> exact .inl rfl
  | ok decoded =>
    simp only [Except.mapError]
    split
    · rename_i stopRequested validUntil _ _
      cases hd : deadline? F validUntil with
      | error e =>
        have he : e = .overflowError := deadline?_error hd
        rw [he]
        exact .inl rfl
      | ok deadline =>
        cases deadline with
        | none => exact .inl rfl
        | some w =>
          by_cases hbad : (!w.isFinite || decide (w ≤ .fin 0)) = true
          · left
            simp only [hbad, if_true]
          · right
            have hfin : w.isFinite = true := by
              simp only [Bool.or_eq_true, Bool.not_eq_true', not_or, Bool.not_eq_false] at hbad
              exact hbad.1
            obtain ⟨x, rfl⟩ := PyFloat.isFinite_iff.mp hfin
            refine ⟨stopRequested, x, ?_⟩
            simp only [if_neg hbad]
    · exact .inl rfl

variable (F scan) in
/-- **The decoder is total.**  No payload makes it raise. -/
lemma decodeStopState_ok (payload : String) (now maxValidityS : PyFloat α) :
    ∃ r, decodeStopState F scan payload now maxValidityS = .ok r := by
  rcases decodeStopState_cases F scan payload now maxValidityS with hrevoke | ⟨b, x, hpass⟩
  · exact ⟨_, hrevoke⟩
  · exact ⟨_, hpass⟩

/-- A decoded deadline is `NaN` or the smaller of a number and the ceiling. -/
lemma decodeStopState_deadline {payload : String} {now maxValidityS : PyFloat α} {r : Bool}
    {v : PyFloat α} (h : decodeStopState F scan payload now maxValidityS = .ok (r, v)) :
    v = .nan ∨ ∃ x, v = PyFloat.pyMin (.fin x)
      (F.add now (positiveOrDefault maxValidityS defaultStopStateMaxValidityS)) := by
  rcases decodeStopState_cases F scan payload now maxValidityS with hrevoke | ⟨b, x, hpass⟩
  · have hv : revoke = (r, v) := Except.ok.inj (hrevoke.symm.trans h)
    exact .inl (congrArg Prod.snd hv).symm
  · have hv := Except.ok.inj (hpass.symm.trans h)
    exact .inr ⟨x, (congrArg Prod.snd hv).symm⟩

end Decode

/-! ## The driver node -/

/-- The callbacks of the driver node, with the clock readings they take. -/
inductive Event (α : Type*)
  | stopState (payload : String) (now : PyFloat α)
  | cmdVel (vx vy wz now : PyFloat α)
  | tick (now : PyFloat α)
  | shutdown

/-- The clock reading of a callback. -/
def Event.time? {α : Type*} : Event α → Option (PyFloat α)
  | .stopState _ now => some now
  | .cmdVel _ _ _ now => some now
  | .tick now => some now
  | .shutdown => none

/-- Is the callback one of the stop-state channel? -/
def Event.IsStopState {α : Type*} : Event α → Prop
  | .stopState _ _ => True
  | _ => False

/-- The parameters of the driver node. -/
structure NodeConfig (α : Type*) extends Config α where
  stopStateMaxValidityS : PyFloat α

section Node

variable {α : Type*} [Field α] [LinearOrder α] [IsStrictOrderedRing α]
  (F : FloatFormat α) (L : MathLib α) (scan : JsonScan α) (cfg : NodeConfig α)

/-- The ceiling on one permission, as the node hardens it at start-up. -/
def NodeConfig.maxValidity : PyFloat α :=
  positiveOrDefault cfg.stopStateMaxValidityS defaultStopStateMaxValidityS

/-- What a payload decodes to when it is received at this time. -/
def decoded (payload : String) (now : PyFloat α) : Except PyErr (Bool × PyFloat α) :=
  decodeStopState F scan payload now cfg.maxValidity

/-- The driver node as a machine; a callback puts out its backend calls, or what it raised. -/
def node : Machine (Core α) (Event α) (Except PyErr (List (BackendCall α))) where
  step c
    | .stopState payload now =>
      match decoded F scan cfg payload now with
      | .ok (stopRequested, validUntil) =>
        (c.onStopState cfg.toConfig stopRequested validUntil, .ok [])
      | .error e => (c, .error e)
    | .cmdVel vx vy wz now =>
      let (c', calls) := c.onCmdVel cfg.toConfig F L vx vy wz now
      (c', .ok calls)
    | .tick now =>
      let (c', calls) := c.onWatchdogTick cfg.toConfig F now
      (c', .ok calls)
    | .shutdown =>
      let (c', calls) := c.shutdownSequence
      (c', .ok calls)

/-! ## Permissions -/

/-- The core accepts a deadline: it is a positive number and not behind the watermark. -/
def Accepts (c : Core α) (v : PyFloat α) : Prop :=
  v.isFinite = true ∧ .fin 0 < v ∧ c.regressed v = false

/-- Some payload of the run so far was accepted with this deadline. -/
def AcceptedIn (past : List (Event α)) (w : PyFloat α) : Prop :=
  ∃ q payload now q' b, past = q ++ .stopState payload now :: q' ∧
    decoded F scan cfg payload now = .ok (b, w) ∧ Accepts ((node F L scan cfg).run .init q) w

/-- The most recent payload of the run grants permission until `v`: it decoded to a go with this
deadline, which is positive and not smaller than any deadline accepted before it. -/
def Grants (past : List (Event α)) (v : PyFloat α) : Prop :=
  ∃ before payload now later, past = before ++ .stopState payload now :: later ∧
    (∀ e ∈ later, ¬ e.IsStopState) ∧ decoded F scan cfg payload now = .ok (false, v) ∧
    v.isFinite = true ∧ .fin 0 < v ∧ ∀ w, AcceptedIn F L scan cfg before w → w ≤ v

/-- What the core's two overlay fields say about the run so far. -/
structure OverlayInv (past : List (Event α)) (c : Core α) : Prop where
  permit : ∀ v, c.overlayPermitUntil = some v → Grants F L scan cfg past v
  watermark : ∀ w, AcceptedIn F L scan cfg past w →
    ∃ top, c.overlayDeadlineWatermark = some top ∧ w ≤ top

variable {F L scan cfg}

variable (F L scan cfg) in
/-- Only the stop-state callback touches the overlay. -/
lemma overlay_unchanged {e : Event α} (he : ¬ e.IsStopState) (c : Core α) :
    (((node F L scan cfg).step c e).1).overlayPermitUntil = c.overlayPermitUntil ∧
      (((node F L scan cfg).step c e).1).overlayDeadlineWatermark =
        c.overlayDeadlineWatermark := by
  cases e with
  | stopState => exact absurd trivial he
  | cmdVel vx vy wz now =>
    simp only [node, Core.onCmdVel]
    split_ifs <;> exact ⟨rfl, rfl⟩
  | tick now =>
    simp only [node, Core.onWatchdogTick]
    split_ifs <;> exact ⟨rfl, rfl⟩
  | shutdown =>
    simp only [node, Core.shutdownSequence]
    split_ifs <;> exact ⟨rfl, rfl⟩

omit [IsStrictOrderedRing α] in
/-- What the overlay does with a decoded payload. -/
lemma onStopState_cases (hen : cfg.stopOverlayEnabled = true) (c : Core α) (b : Bool)
    (v : PyFloat α) :
    (Accepts c v ∧ (c.onStopState cfg.toConfig b v).overlayDeadlineWatermark = some v ∧
        (c.onStopState cfg.toConfig b v).overlayPermitUntil = if b then none else some v) ∨
      (¬ Accepts c v ∧
        (c.onStopState cfg.toConfig b v).overlayDeadlineWatermark = c.overlayDeadlineWatermark ∧
        (c.onStopState cfg.toConfig b v).overlayPermitUntil = none) := by
  unfold Core.onStopState Accepts
  by_cases hfin : v.isFinite = true
  · obtain ⟨x, rfl⟩ := PyFloat.isFinite_iff.mp hfin
    by_cases hpos : 0 < x
    · cases c.regressed (.fin x) <;> simp [hen, hpos, not_le.mpr hpos]
    · simp [hen, hpos, not_lt.mp hpos]
  · simp [hen, hfin]

/-- A deadline accepted in a longer run was accepted before, or by its last callback. -/
lemma acceptedIn_concat {past : List (Event α)} {e : Event α} {w : PyFloat α}
    (h : AcceptedIn F L scan cfg (past ++ [e]) w) :
    AcceptedIn F L scan cfg past w ∨
      ∃ payload now b, e = .stopState payload now ∧ decoded F scan cfg payload now = .ok (b, w) ∧
        Accepts ((node F L scan cfg).run .init past) w := by
  obtain ⟨q, payload, now, q', b, hsplit, hdec, hacc⟩ := h
  rcases List.eq_nil_or_concat q' with rfl | ⟨q'', e', rfl⟩
  · obtain ⟨rfl, hlast⟩ := List.append_inj' hsplit rfl
    exact .inr ⟨payload, now, b, (List.cons.inj hlast).1, hdec, hacc⟩
  · rw [List.concat_eq_append, ← List.cons_append, ← List.append_assoc] at hsplit
    obtain ⟨rfl, -⟩ := List.append_inj' hsplit rfl
    exact .inl ⟨q, payload, now, q'', b, rfl, hdec, hacc⟩

lemma Grants.concat {past : List (Event α)} {e : Event α} {v : PyFloat α}
    (h : Grants F L scan cfg past v) (he : ¬ e.IsStopState) :
    Grants F L scan cfg (past ++ [e]) v := by
  obtain ⟨before, payload, now, later, rfl, hlater, hrest⟩ := h
  refine ⟨before, payload, now, later ++ [e], by simp, ?_, hrest⟩
  intro e' he'
  rcases List.mem_append.mp he' with hold | hnew
  · exact hlater e' hold
  · obtain rfl : e' = e := by simpa using hnew
    exact he

/-- The highest accepted deadline is at most a deadline that is not behind the watermark. -/
lemma OverlayInv.accepted_le {past : List (Event α)} {c : Core α}
    (h : OverlayInv F L scan cfg past c) {v w : PyFloat α} (hv : Accepts c v)
    (hw : AcceptedIn F L scan cfg past w) : w ≤ v := by
  obtain ⟨top, htop, hle⟩ := h.watermark w hw
  obtain ⟨hfin, -, hreg⟩ := hv
  obtain ⟨x, rfl⟩ := PyFloat.isFinite_iff.mp hfin
  have hnot : ¬ (.fin x : PyFloat α) < top := by simpa [Core.regressed, htop] using hreg
  have htopv : top ≤ .fin x := PyFloat.le_of_not_lt (PyFloat.ne_nan_of_le hle).2 (by simp) hnot
  exact PyFloat.le_trans hle htopv

/-- A callback of another channel keeps the invariant. -/
lemma OverlayInv.other {past : List (Event α)} {c : Core α} (h : OverlayInv F L scan cfg past c)
    {e : Event α} (he : ¬ e.IsStopState) :
    OverlayInv F L scan cfg (past ++ [e]) ((node F L scan cfg).step c e).1 := by
  obtain ⟨hpermit, hmark⟩ := overlay_unchanged F L scan cfg he c
  constructor
  · intro v hv
    rw [hpermit] at hv
    exact (h.permit v hv).concat he
  · intro w hw
    rw [hmark]
    rcases acceptedIn_concat hw with hold | ⟨payload, now, b, rfl, -⟩
    · exact h.watermark w hold
    · exact absurd trivial he

/-- A stop-state payload keeps the invariant.  An accepted go grants the permission itself; every
other payload leaves none. -/
lemma OverlayInv.stopState (hen : cfg.stopOverlayEnabled = true) {past : List (Event α)}
    (h : OverlayInv F L scan cfg past ((node F L scan cfg).run .init past)) (payload : String)
    (now : PyFloat α) :
    OverlayInv F L scan cfg (past ++ [.stopState payload now])
      ((node F L scan cfg).step ((node F L scan cfg).run .init past) (.stopState payload now)).1 := by
  obtain ⟨⟨b, v⟩, hdec⟩ := decodeStopState_ok F scan payload now cfg.maxValidity
  have hstep : ((node F L scan cfg).step ((node F L scan cfg).run .init past)
      (.stopState payload now)).1 =
      ((node F L scan cfg).run .init past).onStopState cfg.toConfig b v := by
    simp [node, decoded, hdec]
  -- the last payload decodes in one way only
  have hlast : ∀ {payload' now' b' w}, Event.stopState payload now = .stopState payload' now' →
      decoded F scan cfg payload' now' = .ok (b', w) → v = w := by
    intro payload' now' b' w heq hdec'
    cases heq
    exact congrArg Prod.snd (Except.ok.inj (hdec.symm.trans hdec'))
  rw [hstep]
  rcases onStopState_cases hen _ b v with ⟨hacc, hmark, hpermit⟩ | ⟨hacc, hmark, hpermit⟩
  · have hbound : ∀ w, AcceptedIn F L scan cfg past w → w ≤ v := by
      intro w hw
      exact h.accepted_le hacc hw
    constructor
    · intro u hu
      rw [hpermit] at hu
      cases b with
      | true => simp at hu
      | false =>
        obtain rfl : v = u := by simpa using hu
        exact ⟨past, payload, now, [], rfl, by simp, hdec, hacc.1, hacc.2.1, hbound⟩
    · intro w hw
      refine ⟨v, hmark, ?_⟩
      rcases acceptedIn_concat hw with hold | ⟨payload', now', b', heq, hdec', -⟩
      · exact hbound w hold
      · obtain ⟨x, hx⟩ := PyFloat.isFinite_iff.mp hacc.1
        rw [← hlast heq hdec', hx]
        exact le_refl x
  · constructor
    · intro u hu
      rw [hpermit] at hu
      cases hu
    · intro w hw
      rw [hmark]
      rcases acceptedIn_concat hw with hold | ⟨payload', now', b', heq, hdec', hacc'⟩
      · exact h.watermark w hold
      · rw [← hlast heq hdec'] at hacc'
        exact absurd hacc' hacc

variable (F L scan) in
/-- The overlay fields say what they are meant to in every run. -/
theorem overlayInv_run (hen : cfg.stopOverlayEnabled = true) (past : List (Event α)) :
    OverlayInv F L scan cfg past ((node F L scan cfg).run .init past) := by
  refine Machine.run_history (I := fun past c => OverlayInv F L scan cfg past c) ?_ ?_ past
  · constructor
    · intro v hv
      cases hv
    · rintro w ⟨q, payload, now, q', b, hsplit, -⟩
      simp at hsplit
  · intro past e h
    by_cases he : e.IsStopState
    · cases e with
      | stopState payload now => exact h.stopState hen payload now
      | cmdVel => exact absurd he id
      | tick => exact absurd he id
      | shutdown => exact absurd he id
    · exact h.other he

/-! ## Motion -/

/-- The driver moves only on a command, and only while the overlay does not block. -/
lemma motion_only_unblocked {c : Core α} {e : Event α} {calls : List (BackendCall α)}
    {vx vy wz : PyFloat α} (hcalls : ((node F L scan cfg).step c e).2 = .ok calls)
    (hmove : .setBodyVelocity vx vy wz ∈ calls) :
    ∃ t, e.time? = some t ∧ c.overlayBlocks cfg.toConfig t = false := by
  cases e with
  | stopState payload now =>
    simp only [node] at hcalls
    split at hcalls
    · cases hcalls
      simp at hmove
    · cases hcalls
  | cmdVel ux uy uz now =>
    refine ⟨now, rfl, ?_⟩
    by_contra hblock
    have hblocked : ({ c with lastCmdTime := some now, stale := false } : Core α).overlayBlocks
        cfg.toConfig now = true := by
      simpa [Core.overlayBlocks] using hblock
    simp only [node, Core.onCmdVel, hblocked, if_true] at hcalls
    split_ifs at hcalls <;> cases hcalls <;> simp at hmove
  | tick now =>
    simp only [node, Core.onWatchdogTick] at hcalls
    split_ifs at hcalls <;> cases hcalls <;> simp at hmove
  | shutdown =>
    simp only [node, Core.shutdownSequence] at hcalls
    split_ifs at hcalls <;> cases hcalls <;> simp at hmove

omit [IsStrictOrderedRing α] in
/-- The hardened ceiling is a number, and hardening it again changes nothing. -/
lemma maxValidity_fin (cfg : NodeConfig α) :
    ∃ y, positiveOrDefault cfg.maxValidity defaultStopStateMaxValidityS = .fin y ∧
      cfg.maxValidity = .fin y := by
  unfold NodeConfig.maxValidity positiveOrDefault defaultStopStateMaxValidityS
  cases cfg.stopStateMaxValidityS with
  | fin x => by_cases hx : x ≤ 0 <;> simp [hx]
  | nan => simp
  | posInf => simp
  | negInf => simp

variable (F L scan cfg) in
/-- **The driver moves only under a standing permission.**  The decoder never raises; and in
every run of the enabled overlay under a clock that does not go back, a body velocity sent at
time `t` implies that the most recent payload decoded to a go with a positive finite deadline
`v`, that `v` is not smaller than any deadline accepted before, and that `t` is at most `v`,
which is at most the receipt time of that payload plus the validity ceiling. -/
theorem motion_needs_permit (hen : cfg.stopOverlayEnabled = true) :
    (∀ payload now maxValidityS,
        ∃ r, decodeStopState F scan payload now maxValidityS = .ok r) ∧
      ∀ (past : List (Event α)) (e : Event α) (t : PyFloat α) (calls : List (BackendCall α))
        (vx vy wz : PyFloat α), e.time? = some t →
        ((past ++ [e]).filterMap Event.time?).Pairwise (· ≤ ·) →
        ((node F L scan cfg).step ((node F L scan cfg).run .init past) e).2 = .ok calls →
        .setBodyVelocity vx vy wz ∈ calls →
        ∃ before payload received later v,
          past = before ++ .stopState payload received :: later ∧
          (∀ e ∈ later, ¬ e.IsStopState) ∧
          decoded F scan cfg payload received = .ok (false, v) ∧ v.isFinite = true ∧ .fin 0 < v ∧
          (∀ w, AcceptedIn F L scan cfg before w → w ≤ v) ∧
          t ≤ v ∧ v ≤ F.add received cfg.maxValidity := by
  refine ⟨decodeStopState_ok F scan, ?_⟩
  intro past e t calls vx vy wz ht hclock hcalls hmove
  have hinv := overlayInv_run F L scan hen past
  obtain ⟨t', ht', hopen⟩ := motion_only_unblocked hcalls hmove
  obtain rfl : t = t' := Option.some.inj (ht.symm.trans ht')
  obtain ⟨v, hpermit, hnot⟩ : ∃ v, ((node F L scan cfg).run .init past).overlayPermitUntil = some v ∧
      ¬ v < t := by
    unfold Core.overlayBlocks at hopen
    rw [hen] at hopen
    cases hp : ((node F L scan cfg).run .init past).overlayPermitUntil with
    | none => simp [hp] at hopen
    | some v => exact ⟨v, rfl, by simpa [hp] using hopen⟩
  obtain ⟨before, payload, received, later, rfl, hlater, hdec, hfin, hpos, hbound⟩ :=
    hinv.permit v hpermit
  -- the payload was received no later than now, so neither reading is `NaN`
  have hle : received ≤ t := by
    rw [List.filterMap_append, List.pairwise_append] at hclock
    refine hclock.2.2 received ?_ t (by simp [ht])
    rw [List.mem_filterMap]
    exact ⟨.stopState payload received, by simp, rfl⟩
  obtain ⟨hreceived, htime⟩ := PyFloat.ne_nan_of_le hle
  obtain ⟨z, rfl⟩ := PyFloat.isFinite_iff.mp hfin
  have htv : t ≤ .fin z := PyFloat.le_of_not_lt htime (by simp) hnot
  have hceil : PyFloat.fin z ≤ F.add received cfg.maxValidity := by
    obtain ⟨y, hy, hy'⟩ := maxValidity_fin cfg
    rcases decodeStopState_deadline hdec with hnan | ⟨x, hx⟩
    · cases hnan
    · rw [hx, hy, hy']
      exact PyFloat.pyMin_le_right (by simp) (F.add_ne_nan_of_fin_right y hreceived)
  exact ⟨before, payload, received, later, .fin z, rfl, hlater, hdec, rfl, hpos, hbound, htv, hceil⟩

end Node

/-! ## A run that moves -/

/-- The text of a go with the deadline one. -/
def goPayload : String := "\x7b\"stop_requested\": false, \"valid_until\": 1.0\x7d"

/-- A scanner that knows this one text. -/
def goScan : JsonScan ℚ := fun s =>
  if s = goPayload then
    .ok (.dict [("stop_requested", .bool false), ("valid_until", .float (.fin 1))])
  else .error .valueError

/-- A driver with the overlay on, unit scales and a ceiling of half a second. -/
def overlayConfig : NodeConfig ℚ where
  cmdTimeoutS := .fin (1 / 2)
  stopOverlayEnabled := true
  wheelScale := .fin 1
  yawScale := .fin 1
  lateralEnabled := true
  stopStateMaxValidityS := .fin (1 / 2)

/-- The theorem on the run that receives the go at time one half and moves at time one. -/
theorem motion_needs_permit_go :
    ∃ before payload received later v,
      [.stopState goPayload (.fin (1 / 2))] = before ++ .stopState payload received :: later ∧
      (∀ e ∈ later, ¬ e.IsStopState) ∧
      decoded (.exact ℚ) goScan overlayConfig payload received = .ok (false, v) ∧
      v.isFinite = true ∧ .fin 0 < v ∧
      (∀ w, AcceptedIn (.exact ℚ) .rational goScan overlayConfig before w → w ≤ v) ∧
      .fin 1 ≤ v ∧ v ≤ (FloatFormat.exact ℚ).add received overlayConfig.maxValidity := by
  refine (motion_needs_permit (.exact ℚ) .rational goScan overlayConfig rfl).2
    [.stopState goPayload (.fin (1 / 2))] (.cmdVel (.fin (1 / 10)) (.fin 0) (.fin 0) (.fin 1))
    (.fin 1) [.setBodyVelocity (.fin (1 / 10)) (.fin 0) (.fin 0)] (.fin (1 / 10)) (.fin 0) (.fin 0)
    rfl ?_ ?_ ?_
  · decide +kernel
  · decide +kernel
  · simp

end M1Driver

end MiniatureWarehouse
