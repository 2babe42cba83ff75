import MiniatureWarehouse.Safety.SensorHealth
import Mathlib.Tactic.NormNum
import Mathlib.Algebra.Order.Field.Rat

/-!
# Frozen evidence under inserted frames

A message without a fingerprint is meant to be no evidence either way: it should leave the run
of identical content exactly as it was, so that a stuck sensor cannot hide behind frames nobody
can decode.  The run itself is indeed left alone by such a message.  The monitor however also
remembers the message as the previous one, and the next repeat is compared with *its* stamp.

This file compares a stream with the same stream less some inserted messages and determines
exactly when the run counters agree throughout: when every repeat claims a new measurement over
the message received just before it if and only if it does so over the sensor's own previous
message.
-/

namespace MiniatureWarehouse

namespace SensorHealthMonitor

/-! ## Streams and what they identify -/

section Streams

variable {α : Type*}

/-- The content the sensor last identified. -/
def lastDigest (obs : List (SourceObservation α)) : Option String :=
  (obs.filterMap (·.digest)).getLast?

lemma lastDigest_concat (obs : List (SourceObservation α)) (o : SourceObservation α) :
    lastDigest (obs ++ [o]) = o.digest.or (lastDigest obs) := by
  unfold lastDigest
  rw [List.filterMap_append]
  cases h : o.digest with
  | none => simp [h]
  | some d => simp [h]

/-- A message of a stream: the sensor's own, or an inserted one without a fingerprint. -/
inductive Frame (α : Type*)
  | sensed (obs : SourceObservation α)
  | inserted (obs : SourceObservation α) (noDigest : obs.digest = none)

/-- The message that was received. -/
def Frame.obs : Frame α → SourceObservation α
  | .sensed obs => obs
  | .inserted obs _ => obs

/-- The sensor's own message, if it is one. -/
def Frame.sensed? : Frame α → Option (SourceObservation α)
  | .sensed obs => some obs
  | .inserted _ _ => none

/-- The stream as the monitor receives it. -/
def received (frames : List (Frame α)) : List (SourceObservation α) := frames.map Frame.obs

/-- The stream without the insertions. -/
def sensed (frames : List (Frame α)) : List (SourceObservation α) := frames.filterMap Frame.sensed?

@[simp] lemma received_concat (frames : List (Frame α)) (f : Frame α) :
    received (frames ++ [f]) = received frames ++ [f.obs] := by
  simp [received]

@[simp] lemma sensed_concat_sensed (frames : List (Frame α)) (o : SourceObservation α) :
    sensed (frames ++ [.sensed o]) = sensed frames ++ [o] := by
  simp [sensed, Frame.sensed?]

@[simp] lemma sensed_concat_inserted (frames : List (Frame α)) (o : SourceObservation α)
    (h : o.digest = none) : sensed (frames ++ [.inserted o h]) = sensed frames := by
  simp [sensed, Frame.sensed?]

end Streams

/-! ## The run of one source -/

section Runs

variable {α : Type*} [LinearOrder α]

/-- A run of identical content, one message later. -/
def advance (run : Option String × ℕ) (previous : Option (SourceObservation α))
    (obs : SourceObservation α) : Option String × ℕ :=
  if obs.digest = none then run
  else if run.1 ≠ obs.digest then (obs.digest, 1)
  else (obs.digest, if stampAdvanced previous obs then run.2 + 1 else run.2)

/-- A repeat of known content counts if its stamp advanced, and only then. -/
lemma advance_repeat {run : Option String × ℕ} {previous : Option (SourceObservation α)}
    {o : SourceObservation α} {d : String} (hd : o.digest = some d) (hrun : run.1 = some d) :
    advance run previous o = (some d, run.2 + (stampAdvanced previous o).toNat) := by
  unfold advance
  rw [if_neg (by simp [hd]), if_neg (by simp [hd, hrun]), hd]
  cases stampAdvanced previous o <;> rfl

/-- Away from repeats, the previous message does not matter. -/
lemma advance_congr {run : Option String × ℕ} (previous previous' : Option (SourceObservation α))
    {o : SourceObservation α} (h : o.digest ≠ none → run.1 ≠ o.digest) :
    advance run previous o = advance run previous' o := by
  unfold advance
  by_cases hd : o.digest = none
  · simp [hd]
  · simp [hd, h hd]

end Runs

section Monitor

variable {α : Type*} [Field α] [LinearOrder α]

/-- The monitor after the messages of one source. -/
def feed (m : SensorHealthMonitor α) (source : String) (obs : List (SourceObservation α)) :
    SensorHealthMonitor α :=
  machine.run m (obs.map fun o => (source, o))

lemma advanceRun_eq (m : SensorHealthMonitor α) (source : String) (obs : SourceObservation α) :
    m.advanceRun source obs = advance (m.frozenRun source) (m.last.get? source) obs := rfl

section Declared

variable {thresholds : Dict String (SourceThresholds α)} {source : String}
  (hdecl : thresholds.contains source = true)

include hdecl

/-- What one more message of the source does to its two entries. -/
lemma feed_concat (obs : List (SourceObservation α)) (o : SourceObservation α) :
    ((init thresholds).feed source (obs ++ [o])).frozenRun source =
        advance (((init thresholds).feed source obs).frozenRun source)
          (((init thresholds).feed source obs).last.get? source) o ∧
      ((init thresholds).feed source (obs ++ [o])).last.get? source = some o := by
  have hth : ((init thresholds).feed source obs).thresholds.contains source = true := by
    unfold feed
    rw [thresholds_run]
    exact hdecl
  have hstep := observe_declared hth o
  have hfeed : (init thresholds).feed source (obs ++ [o]) =
      (machine.step ((init thresholds).feed source obs) (source, o)).1 := by
    unfold feed
    rw [List.map_append, List.map_singleton, Machine.run_concat]
  rw [hfeed, hstep, ← advanceRun_eq]
  constructor
  · simp [frozenRun, Dict.getD]
  · simp

lemma last_feed (obs : List (SourceObservation α)) :
    ((init thresholds).feed source obs).last.get? source = obs.getLast? := by
  induction obs using List.reverseRecOn with
  | nil => rfl
  | append_singleton obs o =>
    rw [(feed_concat hdecl obs o).2, List.getLast?_concat]

/-- The counter of a stream, read off its last message. -/
lemma frozenRun_feed_concat (obs : List (SourceObservation α)) (o : SourceObservation α) :
    ((init thresholds).feed source (obs ++ [o])).frozenRun source =
      advance (((init thresholds).feed source obs).frozenRun source) obs.getLast? o := by
  rw [(feed_concat hdecl obs o).1, last_feed hdecl]

/-- The run always counts the content the sensor last identified. -/
lemma frozenRun_fst (obs : List (SourceObservation α)) :
    (((init thresholds).feed source obs).frozenRun source).1 = lastDigest obs := by
  induction obs using List.reverseRecOn with
  | nil => rfl
  | append_singleton obs o ih =>
    rw [frozenRun_feed_concat hdecl, lastDigest_concat]
    unfold advance
    cases hd : o.digest with
    | none => simpa [hd] using ih
    | some d =>
      simp only [reduceCtorEq, if_false, Option.some_or]
      split_ifs <;> rfl

end Declared

/-! ## Inserted frames -/

variable (thresholds : Dict String (SourceThresholds α)) (source : String)

/-- Every repeat of the sensor advances over the message received just before it exactly when
it advances over the sensor's own previous message. -/
def RepeatsAgree (frames : List (Frame α)) : Prop :=
  ∀ p o q d, frames = p ++ .sensed o :: q → o.digest = some d →
    lastDigest (sensed p) = some d →
      stampAdvanced (received p).getLast? o = stampAdvanced (sensed p).getLast? o

/-- **When inserted frames leave the evidence alone.**  For every stream of a declared source
and every way of inserting messages without a fingerprint, the run counter agrees with that of
the stream without the insertions at every moment if and only if all repeats agree on whether
the stamp advanced. -/
theorem frozenRun_survives_iff (hdecl : thresholds.contains source = true)
    (frames : List (Frame α)) :
    (∀ p q, frames = p ++ q →
        ((init thresholds).feed source (received p)).frozenRun source =
          ((init thresholds).feed source (sensed p)).frozenRun source) ↔
      RepeatsAgree frames := by
  constructor
  · rintro h p o q d rfl hd hlast
    have hbefore := h p (.sensed o :: q) rfl
    have hafter := h (p ++ [.sensed o]) q (by simp)
    have hrun : (((init thresholds).feed source (sensed p)).frozenRun source).1 = some d := by
      rw [frozenRun_fst hdecl, hlast]
    rw [received_concat, sensed_concat_sensed, frozenRun_feed_concat hdecl,
      frozenRun_feed_concat hdecl, hbefore, Frame.obs, advance_repeat hd hrun,
      advance_repeat hd hrun, Prod.mk.injEq] at hafter
    have hcount := Nat.add_left_cancel hafter.2
    revert hcount
    cases stampAdvanced (received p).getLast? o <;>
      cases stampAdvanced (sensed p).getLast? o <;> simp
  · intro h p
    induction p using List.reverseRecOn with
    | nil => exact fun _ _ => rfl
    | append_singleton p f ih =>
      intro q hq
      have hq' : frames = p ++ f :: q := by simpa using hq
      have hbefore := ih (f :: q) hq'
      cases f with
      | inserted o hnone =>
        rw [received_concat, sensed_concat_inserted, frozenRun_feed_concat hdecl, hbefore]
        simp [advance, Frame.obs, hnone]
      | sensed o =>
        rw [received_concat, sensed_concat_sensed, frozenRun_feed_concat hdecl,
          frozenRun_feed_concat hdecl, hbefore, Frame.obs]
        by_cases hrepeat : o.digest ≠ none → lastDigest (sensed p) ≠ o.digest
        · apply advance_congr
          rwa [frozenRun_fst hdecl]
        · -- a repeat of the content the run counts: here the two previous messages matter
          push Not at hrepeat
          obtain ⟨d, hd⟩ := Option.ne_none_iff_exists'.mp hrepeat.1
          have hlast : lastDigest (sensed p) = some d := hrepeat.2.trans hd
          have hrun : (((init thresholds).feed source (sensed p)).frozenRun source).1 = some d := by
            rw [frozenRun_fst hdecl, hlast]
          rw [advance_repeat hd hrun, advance_repeat hd hrun, h p o q d hq' hd hlast]

/-! ## A frozen sensor behind one undecodable frame -/

/-- Two repeats make a source frozen. -/
def exampleThresholds : Dict String (SourceThresholds ℚ) :=
  Dict.empty.set "cliff_scan" ⟨10, 1 / 2, 2, by norm_num, by norm_num, by norm_num, by norm_num⟩

/-- A message of the stuck sensor, stamped and received at `t`. -/
def stuckAt (t : ℚ) : SourceObservation ℚ := ⟨.fin t, .fin t, .fin 1, some "A"⟩

/-- A frame nobody can decode, received at `t`. -/
def undecodableAt (t : ℚ) : SourceObservation ℚ :=
  coverageObservation (fun _ => none) "" (.fin t)

/-- The stuck sensor repeats itself at the times 1 and 3, with an undecodable frame at 2. -/
def hiddenRepeat : List (Frame ℚ) :=
  [.sensed (stuckAt 1), .inserted (undecodableAt 2) rfl, .sensed (stuckAt 3)]

/-- **An undecodable frame hides a repeat.**  Without it the run reaches two and the source is
frozen; with it the run stays at one and the source is fine. -/
theorem undecodable_frame_hides_repeat :
    let verdictOf (m : SensorHealthMonitor ℚ) :=
      (m.evaluate (FloatFormat.exact ℚ) (.fin 4)).2.verdicts.get? "cliff_scan"
    let clean := (init exampleThresholds).feed "cliff_scan" (sensed hiddenRepeat)
    let interspersed := (init exampleThresholds).feed "cliff_scan" (received hiddenRepeat)
    clean.frozenRun "cliff_scan" = (some "A", 2) ∧ verdictOf clean = some .frozen ∧
      interspersed.frozenRun "cliff_scan" = (some "A", 1) ∧ verdictOf interspersed = some .ok := by
  decide +kernel

/-- The comparison at a stream whose only insertion comes first: the counters agree. -/
theorem frozenRun_survives_iff_leading :
    ((init exampleThresholds).feed "cliff_scan"
        (received [.inserted (undecodableAt 0) rfl, .sensed (stuckAt 1)])).frozenRun "cliff_scan" =
      ((init exampleThresholds).feed "cliff_scan"
        (sensed [.inserted (undecodableAt 0) rfl, .sensed (stuckAt 1)])).frozenRun "cliff_scan" := by
  refine (frozenRun_survives_iff exampleThresholds "cliff_scan" (by decide +kernel)
    [.inserted (undecodableAt 0) rfl, .sensed (stuckAt 1)]).mpr ?_ _ [] (by simp)
  intro p o q d hsplit hd hlast
  match p with
  | [] => simp [lastDigest, sensed] at hlast
  | [f] =>
    obtain ⟨rfl, -⟩ := List.cons.inj hsplit
    have hnone : lastDigest (sensed [Frame.inserted (undecodableAt 0) rfl]) = none := rfl
    rw [hnone] at hlast
    cases hlast
  | _ :: _ :: _ => simp at hsplit

end Monitor

end SensorHealthMonitor

end MiniatureWarehouse
