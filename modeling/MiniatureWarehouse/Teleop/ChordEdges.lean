import MiniatureWarehouse.Teleop.EstopDominance

/-!
# Edges of the arming side, and samples that lack a button

Arming and clearing are rising edges: a button that is down now was up in the remembered sample.
Every sample is remembered, also one that is too short to carry the button, and a button that is
missing reads as up.  So the edge is real when the remembered sample carries the button, and it
may be forged when it does not.

What a genuine edge rests on is a fact about the samples received so far: the most recent one
that carried the buttons showed one of them up (`ShownReleased`).  The theorem says of every run
exactly which steps break this.
-/

namespace MiniatureWarehouse

namespace Joymap

section Edges

variable {α : Type*}

/-- The buttons of a sample. -/
def JoyEvent.buttons? : JoyEvent α → Option (List ℤ)
  | .sample buttons _ => some buttons
  | .disarm => none

/-- The button arrays received so far, the oldest first. -/
def received (past : List (JoyEvent α)) : List (List ℤ) := past.filterMap JoyEvent.buttons?

/-- Does a sample carry all of the buttons? -/
def carries (indices : List ℤ) (buttons : List ℤ) : Bool := indices.all (indexOk buttons)

/-- The most recent sample that carries all of the buttons. -/
def lastCarrying (indices : List ℤ) (past : List (JoyEvent α)) : Option (List ℤ) :=
  (received past).reverse.find? (carries indices)

/-- The most recent sample that carries all of the buttons shows one of them released. -/
def ShownReleased (indices : List ℤ) (past : List (JoyEvent α)) : Prop :=
  ∃ shown ∈ lastCarrying indices past, ∃ i ∈ indices, pressed shown i = false

instance (indices : List ℤ) (past : List (JoyEvent α)) : Decidable (ShownReleased indices past) :=
  inferInstanceAs (Decidable (∃ shown ∈ lastCarrying indices past, _))

/-- A release of the buttons that no sample shows: the sample before lacks one of them, and the
most recent one that carries them all shows them held, or there is none. -/
def ForgedRelease (indices : List ℤ) (past : List (JoyEvent α)) : Prop :=
  (∃ prev ∈ (received past).getLast?, carries indices prev = false) ∧ ¬ ShownReleased indices past

instance (indices : List ℤ) (past : List (JoyEvent α)) : Decidable (ForgedRelease indices past) :=
  inferInstanceAs (Decidable ((∃ prev ∈ (received past).getLast?, _) ∧ _))

lemma received_concat_sample (past : List (JoyEvent α)) (buttons : List ℤ)
    (axes : List (PyFloat α)) :
    received (past ++ [.sample buttons axes]) = received past ++ [buttons] := by
  simp [received, JoyEvent.buttons?]

lemma received_concat_disarm (past : List (JoyEvent α)) :
    received (past ++ [.disarm]) = received past := by
  simp [received, JoyEvent.buttons?]

/-- A button that is missing reads as released. -/
lemma pressed_of_not_indexOk {buttons : List ℤ} {i : ℤ} (h : indexOk buttons i = false) :
    pressed buttons i = false := by
  have hout : i < 0 ∨ (buttons.length : ℤ) ≤ i := by
    have hrange := of_decide_eq_false h
    omega
  unfold pressed
  exact if_pos hout

/-- A sample that carries the buttons is the most recent one that does. -/
lemma lastCarrying_of_carries {indices : List ℤ} {past : List (JoyEvent α)} {prev : List ℤ}
    (hprev : (received past).getLast? = some prev) (hcarries : carries indices prev = true) :
    lastCarrying indices past = some prev := by
  obtain ⟨front, hfront⟩ := List.getLast?_eq_some_iff.mp hprev
  unfold lastCarrying
  rw [hfront, List.reverse_append, List.reverse_singleton, List.singleton_append,
    List.find?_cons_of_pos hcarries]

/-- Where the sample before shows one of the buttons up or missing, a release is shown unless it
is forged. -/
lemma shownReleased_iff_not_forged {indices : List ℤ} {past : List (JoyEvent α)} {prev : List ℤ}
    (hprev : (received past).getLast? = some prev) {i : ℤ} (hi : i ∈ indices)
    (hup : pressed prev i = false) :
    ShownReleased indices past ↔ ¬ ForgedRelease indices past := by
  constructor
  · rintro hshown ⟨-, hnot⟩
    exact hnot hshown
  · intro hforged
    by_contra hnot
    apply hforged
    refine ⟨⟨prev, hprev, ?_⟩, hnot⟩
    by_contra hcarries
    exact hnot ⟨prev, lastCarrying_of_carries hprev (Bool.not_eq_false _ ▸ hcarries), i, hi, hup⟩

end Edges

section Genuine

variable {α : Type*} [Field α] [LinearOrder α] (cfg : OperatorEstopConfig α)

/-- The sample is acted on, and it presses no stop button. -/
def Effective (s : OperatorEstopState) (buttons : List ℤ) : Prop :=
  operatorEstopConfigError cfg (some buttons) = none ∧
    (cfg.enabled = true → (estopRising s.prevButtons buttons cfg.estopButton ||
      estopRising s.prevButtons buttons cfg.estopButtonAlt) = false)

instance (s : OperatorEstopState) (buttons : List ℤ) : Decidable (Effective cfg s buttons) :=
  inferInstanceAs (Decidable (_ ∧ _))

/-- Everything arming asks for beside the edge. -/
def AsksToArm (s : OperatorEstopState) (buttons : List ℤ) (axes : List (PyFloat α)) : Prop :=
  Effective cfg s buttons ∧ s.latched = false ∧ s.armed = false ∧
    (s.neutralSeen = true ∨ isNeutral axes cfg = true) ∧
    pressed buttons cfg.deadmanButton = true

instance (s : OperatorEstopState) (buttons : List ℤ) (axes : List (PyFloat α)) :
    Decidable (AsksToArm cfg s buttons axes) :=
  inferInstanceAs (Decidable (_ ∧ _))

/-- Everything clearing asks for beside the edge. -/
def AsksToClear (s : OperatorEstopState) (buttons : List ℤ) : Prop :=
  Effective cfg s buttons ∧ cfg.enabled = true ∧ s.latched = true ∧
    cfg.clearButtons.all (pressed buttons) = true ∧ pressed buttons cfg.deadmanButton = false ∧
    pressed buttons cfg.estopButton = false ∧ pressed buttons cfg.estopButtonAlt = false

instance (s : OperatorEstopState) (buttons : List ℤ) : Decidable (AsksToClear cfg s buttons) :=
  inferInstanceAs (Decidable (_ ∧ _))

/-- The edges of one sample, received after `past`, are genuine: it turns the arming on only with
the deadman down now and shown released before, and it clears only with the chord down now and
shown released before. -/
def GenuineEdges (past : List (JoyEvent α)) (buttons : List ℤ) (axes : List (PyFloat α)) : Prop :=
  (((estopMachine cfg).run {} past).armed = false →
      (operatorEstopStep ((estopMachine cfg).run {} past) buttons axes cfg).1.armed = true →
        pressed buttons cfg.deadmanButton = true ∧ ShownReleased [cfg.deadmanButton] past) ∧
    ((operatorEstopStep ((estopMachine cfg).run {} past) buttons axes cfg).2.1 = .clear →
      cfg.clearButtons.all (pressed buttons) = true ∧ ShownReleased cfg.clearButtons past)

instance (past : List (JoyEvent α)) (buttons : List ℤ) (axes : List (PyFloat α)) :
    Decidable (GenuineEdges cfg past buttons axes) :=
  inferInstanceAs (Decidable ((_ → _ → _) ∧ (_ → _)))

/-- The sample takes a forged release for an edge. -/
def TakesForgedRelease (past : List (JoyEvent α)) (buttons : List ℤ) (axes : List (PyFloat α)) :
    Prop :=
  (AsksToArm cfg ((estopMachine cfg).run {} past) buttons axes ∧
      ForgedRelease [cfg.deadmanButton] past) ∨
    (AsksToClear cfg ((estopMachine cfg).run {} past) buttons ∧
      ForgedRelease cfg.clearButtons past)

variable {cfg}

/-- Every sample is remembered. -/
lemma operatorEstopStep_prevButtons (s : OperatorEstopState) (buttons : List ℤ)
    (axes : List (PyFloat α)) :
    (operatorEstopStep s buttons axes cfg).1.prevButtons = some buttons := by
  unfold operatorEstopStep
  split_ifs <;> rfl

/-- The remembered sample is the last one received. -/
lemma prevButtons_run (past : List (JoyEvent α)) :
    ((estopMachine cfg).run {} past).prevButtons = (received past).getLast? := by
  induction past using List.reverseRecOn with
  | nil => rfl
  | append_singleton past e ih =>
    rw [Machine.run_concat]
    cases e with
    | sample buttons axes =>
      rw [received_concat_sample, List.getLast?_concat]
      exact operatorEstopStep_prevButtons _ buttons axes
    | disarm =>
      rw [received_concat_disarm]
      exact ih

/-- A sample turns the arming on when it asks to and the deadman's edge is there. -/
lemma armed_step_iff {s : OperatorEstopState} {buttons : List ℤ} {axes : List (PyFloat α)}
    (hs : s.armed = false) :
    (operatorEstopStep s buttons axes cfg).1.armed = true ↔
      AsksToArm cfg s buttons axes ∧
        ∃ prev ∈ s.prevButtons, pressed prev cfg.deadmanButton = false := by
  have harm : (armStep s buttons axes cfg).1.armed = true ↔
      s.latched = false ∧ (s.neutralSeen = true ∨ isNeutral axes cfg = true) ∧
        pressed buttons cfg.deadmanButton = true ∧
          ∃ prev ∈ s.prevButtons, pressed prev cfg.deadmanButton = false := by
    unfold armStep rising
    rw [hs]
    cases s.prevButtons <;> cases s.latched <;> cases s.neutralSeen <;> simp
  unfold AsksToArm Effective operatorEstopStep
  cases herror : operatorEstopConfigError cfg (some buttons) with
  | some error => simp
  | none =>
    rw [if_neg (by simp)]
    split_ifs with henabled hstop hclear
    · simp [hstop, henabled]
    · have hlatched : s.latched = true := by
        simp only [Bool.and_eq_true] at hclear
        exact hclear.1.1.1.1
      simp [hlatched]
    · rw [harm]
      simp only [hs, henabled, Bool.not_eq_true _ ▸ hstop, true_and, forall_const, and_assoc]
    · rw [harm]
      simp [hs, henabled, and_assoc]

/-- A sample clears the stop when it asks to and the chord's edge is there. -/
lemma clear_step_iff {s : OperatorEstopState} {buttons : List ℤ} {axes : List (PyFloat α)} :
    (operatorEstopStep s buttons axes cfg).2.1 = .clear ↔
      AsksToClear cfg s buttons ∧
        ∃ prev ∈ s.prevButtons, ∃ i ∈ cfg.clearButtons, pressed prev i = false := by
  have hchord : chordRising s.prevButtons buttons cfg.clearButtons = true ↔
      cfg.clearButtons.all (pressed buttons) = true ∧
        ∃ prev ∈ s.prevButtons, ∃ i ∈ cfg.clearButtons, pressed prev i = false := by
    unfold chordRising
    cases s.prevButtons with
    | none => simp
    | some prev =>
      cases cfg.clearButtons with
      | nil => simp
      | cons i is => cases (i :: is).all (pressed buttons) <;> simp [-List.all_cons]
  unfold AsksToClear Effective operatorEstopStep
  cases herror : operatorEstopConfigError cfg (some buttons) with
  | some error => simp
  | none =>
    rw [if_neg (by simp)]
    split_ifs with henabled hstop hclear
    · simp [hstop, henabled]
    · simp only [Bool.and_eq_true, Bool.not_eq_true', hchord] at hclear
      simp only [henabled, Bool.not_eq_true _ ▸ hstop, true_and, forall_const]
      tauto
    · simp only [Bool.and_eq_true, Bool.not_eq_true', hchord] at hclear
      simp only [armStep, reduceCtorEq, false_iff]
      rintro ⟨⟨-, -, hlatched, hdown, hdeadman, hestop, halt⟩, hup⟩
      exact hclear ⟨⟨⟨⟨hlatched, hdown, hup⟩, hdeadman⟩, hestop⟩, halt⟩
    · simp [armStep, henabled]

/-- **Genuine unless forged**, one sample. -/
lemma genuineEdges_iff (past : List (JoyEvent α)) (buttons : List ℤ) (axes : List (PyFloat α)) :
    GenuineEdges cfg past buttons axes ↔ ¬ TakesForgedRelease cfg past buttons axes := by
  have hprev : ((estopMachine cfg).run {} past).prevButtons = (received past).getLast? :=
    prevButtons_run past
  have harm : (((estopMachine cfg).run {} past).armed = false →
      (operatorEstopStep ((estopMachine cfg).run {} past) buttons axes cfg).1.armed = true →
        pressed buttons cfg.deadmanButton = true ∧ ShownReleased [cfg.deadmanButton] past) ↔
      ¬ (AsksToArm cfg ((estopMachine cfg).run {} past) buttons axes ∧
        ForgedRelease [cfg.deadmanButton] past) := by
    constructor
    · rintro h ⟨hasks, ⟨prev, hlast, hlacks⟩, hnot⟩
      -- a missing deadman reads as released, so the edge is there
      have hup : pressed prev cfg.deadmanButton = false := by
        simp only [carries, List.all_cons, List.all_nil, Bool.and_true] at hlacks
        exact pressed_of_not_indexOk hlacks
      have harmed := (armed_step_iff hasks.2.2.1).mpr ⟨hasks, prev, hprev.trans hlast, hup⟩
      exact hnot (h hasks.2.2.1 harmed).2
    · intro h hs harmed
      obtain ⟨hasks, prev, hmem, hup⟩ := (armed_step_iff hs).mp harmed
      have hlast : (received past).getLast? = some prev := hprev ▸ hmem
      refine ⟨hasks.2.2.2.2, ?_⟩
      rw [shownReleased_iff_not_forged hlast (List.mem_singleton_self _) hup]
      exact fun hforged => h ⟨hasks, hforged⟩
  have hclear : ((operatorEstopStep ((estopMachine cfg).run {} past) buttons axes cfg).2.1 =
        .clear → cfg.clearButtons.all (pressed buttons) = true ∧
          ShownReleased cfg.clearButtons past) ↔
      ¬ (AsksToClear cfg ((estopMachine cfg).run {} past) buttons ∧
        ForgedRelease cfg.clearButtons past) := by
    constructor
    · rintro h ⟨hasks, ⟨prev, hlast, hlacks⟩, hnot⟩
      obtain ⟨i, hi, hmissing⟩ : ∃ i ∈ cfg.clearButtons, indexOk prev i = false := by
        simpa [carries] using hlacks
      have hstep : (operatorEstopStep ((estopMachine cfg).run {} past) buttons axes cfg).2.1 =
          .clear := clear_step_iff.mpr
        ⟨hasks, prev, hprev.trans hlast, i, hi, pressed_of_not_indexOk hmissing⟩
      exact hnot (h hstep).2
    · intro h hstep
      obtain ⟨hasks, prev, hmem, i, hi, hup⟩ := clear_step_iff.mp hstep
      have hlast : (received past).getLast? = some prev := hprev ▸ hmem
      refine ⟨hasks.2.2.2.1, ?_⟩
      rw [shownReleased_iff_not_forged hlast hi hup]
      exact fun hforged => h ⟨hasks, hforged⟩
  unfold GenuineEdges TakesForgedRelease
  rw [harm, hclear, not_or]

variable (cfg) in
/-- **When the edges of a run are genuine.**  In a run of samples and disarms every sample arms
and clears on genuine edges exactly when none of them takes a forged release: none asks to arm or
to clear right after a sample that lacks the deadman, or a button of the chord, while the most
recent sample that carried it shows it held, or none has carried it. -/
theorem edges_genuine_iff (es : List (JoyEvent α)) :
    (∀ past buttons axes rest, es = past ++ .sample buttons axes :: rest →
        GenuineEdges cfg past buttons axes) ↔
      ∀ past buttons axes rest, es = past ++ .sample buttons axes :: rest →
        ¬ TakesForgedRelease cfg past buttons axes := by
  simp only [genuineEdges_iff]

variable (cfg) in
/-- Where every sample carries the deadman and the whole chord, every edge is genuine. -/
theorem edges_genuine_of_full_samples (es : List (JoyEvent α))
    (hfull : ∀ buttons ∈ received es,
      carries [cfg.deadmanButton] buttons = true ∧ carries cfg.clearButtons buttons = true) :
    ∀ past buttons axes rest, es = past ++ .sample buttons axes :: rest →
      GenuineEdges cfg past buttons axes := by
  rintro past buttons axes rest rfl
  rw [genuineEdges_iff]
  intro hforged
  have hprev : ∀ prev ∈ (received past).getLast?,
      carries [cfg.deadmanButton] prev = true ∧ carries cfg.clearButtons prev = true := by
    intro prev hlast
    apply hfull
    have hmem := List.mem_of_getLast? hlast
    simp only [received, List.filterMap_append, List.mem_append] at hmem ⊢
    exact .inl hmem
  rcases hforged with ⟨-, ⟨prev, hlast, hlacks⟩, -⟩ | ⟨-, ⟨prev, hlast, hlacks⟩, -⟩
  · rw [(hprev prev hlast).1] at hlacks
    cases hlacks
  · rw [(hprev prev hlast).2] at hlacks
    cases hlacks

end Genuine

/-! ## A truncated sample forges a release -/

/-- A sample of six buttons, none of them pressed: it carries neither the deadman nor the chord. -/
def truncatedSample : JoyEvent ℚ := .sample (List.replicate 6 0) (List.replicate 8 (.fin 0))

/-- The deadman is held in every sample that carries it. -/
def deadmanHeld : List (JoyEvent ℚ) := [fullSample [6], truncatedSample, fullSample [6]]

/-- The chord is held in every sample that carries it; the stop is pressed in the second. -/
def chordHeld : List (JoyEvent ℚ) :=
  [fullSample [10, 11], fullSample [1, 10, 11], truncatedSample, fullSample [10, 11]]

/-- **A truncated sample counts as a release.**  Under the default wiring the last sample of
`deadmanHeld` arms although no sample shows the deadman up, and the last one of `chordHeld` clears
although no sample that carries the chord shows it up. -/
theorem truncated_sample_forges_release :
    let cfg := defaultOperatorEstopConfig (FloatFormat.exact ℚ)
    operatorEstopConfigError cfg none = none ∧
      (¬ ∀ past buttons axes rest, deadmanHeld = past ++ .sample buttons axes :: rest →
        GenuineEdges cfg past buttons axes) ∧
      ¬ ∀ past buttons axes rest, chordHeld = past ++ .sample buttons axes :: rest →
        GenuineEdges cfg past buttons axes := by
  refine ⟨by decide +kernel, fun h => ?_, fun h => ?_⟩
  · have hlast := h [fullSample [6], truncatedSample] _ _ [] rfl
    revert hlast
    decide +kernel
  · have hlast := h [fullSample [10, 11], fullSample [1, 10, 11], truncatedSample] _ _ [] rfl
    revert hlast
    decide +kernel

end Joymap

end MiniatureWarehouse
