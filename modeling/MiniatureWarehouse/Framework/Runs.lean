import Mathlib.Data.List.Induction
import Mathlib.Data.List.ReduceOption

/-!
# Runs of a state machine

Most components of this repository are objects whose methods are called one after another by
a callback loop.  A `Machine σ ε ω` is such an object: `step s e` handles the call `e` in the
state `s` and returns the next state with what the call puts out.

Two induction rules package what every safety argument needs: `run_invariant` for a property
of the state alone, and `run_history` for a property that relates the state to the calls made
so far.  A third, `run_refines`, matches the runs of one machine with those of another.
`AllSteps` says of a run that every single step meets a condition on the state before it; it is
how a theorem restricts the runs it speaks about without naming states.
-/

namespace MiniatureWarehouse

/-- A deterministic state machine with inputs `ε` and outputs `ω`. -/
structure Machine (σ ε ω : Type*) where
  step : σ → ε → σ × ω

namespace Machine

variable {σ ε ω : Type*} (M : Machine σ ε ω)

/-- The state after the inputs `es`, starting in `s`. -/
def run : σ → List ε → σ
  | s, [] => s
  | s, e :: es => run (M.step s e).1 es

/-- What the inputs `es` put out, one entry for each. -/
def outputs : σ → List ε → List ω
  | _, [] => []
  | s, e :: es => (M.step s e).2 :: outputs (M.step s e).1 es

/-- Every step of the run meets the condition `C` on the state before it and its input. -/
def AllSteps (C : σ → ε → Prop) : σ → List ε → Prop
  | _, [] => True
  | s, e :: es => C s e ∧ AllSteps C (M.step s e).1 es

/-- Every state of the run, the first and the last included, has the property `P`. -/
def Always (P : σ → Prop) : σ → List ε → Prop
  | s, [] => P s
  | s, e :: es => P s ∧ Always P (M.step s e).1 es

@[simp] lemma run_nil (s : σ) : M.run s [] = s := rfl

@[simp] lemma run_cons (s : σ) (e : ε) (es : List ε) :
    M.run s (e :: es) = M.run (M.step s e).1 es := rfl

@[simp] lemma outputs_nil (s : σ) : M.outputs s [] = [] := rfl

@[simp] lemma outputs_cons (s : σ) (e : ε) (es : List ε) :
    M.outputs s (e :: es) = (M.step s e).2 :: M.outputs (M.step s e).1 es := rfl

lemma run_append (s : σ) (es fs : List ε) : M.run s (es ++ fs) = M.run (M.run s es) fs := by
  induction es generalizing s with
  | nil => rfl
  | cons e es ih => simpa using ih _

lemma run_concat (s : σ) (es : List ε) (e : ε) :
    M.run s (es ++ [e]) = (M.step (M.run s es) e).1 := by
  simp [run_append]

lemma outputs_append (s : σ) (es fs : List ε) :
    M.outputs s (es ++ fs) = M.outputs s es ++ M.outputs (M.run s es) fs := by
  induction es generalizing s with
  | nil => rfl
  | cons e es ih => simpa using ih _

instance AllSteps.decidable (C : σ → ε → Prop) [∀ s e, Decidable (C s e)] :
    ∀ (s : σ) (es : List ε), Decidable (M.AllSteps C s es)
  | _, [] => .isTrue trivial
  | s, e :: es =>
    have := AllSteps.decidable C (M.step s e).1 es
    inferInstanceAs (Decidable (C s e ∧ M.AllSteps C (M.step s e).1 es))

@[simp] lemma allSteps_nil (C : σ → ε → Prop) (s : σ) : M.AllSteps C s [] := trivial

@[simp] lemma allSteps_cons (C : σ → ε → Prop) (s : σ) (e : ε) (es : List ε) :
    M.AllSteps C s (e :: es) ↔ C s e ∧ M.AllSteps C (M.step s e).1 es := Iff.rfl

lemma allSteps_append (C : σ → ε → Prop) (s : σ) (es fs : List ε) :
    M.AllSteps C s (es ++ fs) ↔ M.AllSteps C s es ∧ M.AllSteps C (M.run s es) fs := by
  induction es generalizing s with
  | nil => simp
  | cons e es ih => simp [ih, and_assoc]

/-- A condition on every step is a condition at every split of the inputs. -/
lemma allSteps_iff (C : σ → ε → Prop) (s : σ) (es : List ε) :
    M.AllSteps C s es ↔ ∀ pre e post, es = pre ++ e :: post → C (M.run s pre) e := by
  constructor
  · rintro h pre e post rfl
    exact ((M.allSteps_append C s pre (e :: post)).mp h).2.1
  · intro h
    induction es generalizing s with
    | nil => trivial
    | cons e es ih =>
      refine ⟨h [] e es rfl, ih _ fun pre e' post hes => ?_⟩
      exact h (e :: pre) e' post (by simp [hes])

/-- A condition on the inputs alone holds of every step when it holds of every input. -/
lemma allSteps_of_forall {P : ε → Prop} (s : σ) {es : List ε} (h : ∀ e ∈ es, P e) :
    M.AllSteps (fun _ e => P e) s es := by
  rw [allSteps_iff]
  rintro pre e post rfl
  exact h e (by simp)

@[simp] lemma always_nil (P : σ → Prop) (s : σ) : M.Always P s [] ↔ P s := Iff.rfl

@[simp] lemma always_cons (P : σ → Prop) (s : σ) (e : ε) (es : List ε) :
    M.Always P s (e :: es) ↔ P s ∧ M.Always P (M.step s e).1 es := Iff.rfl

lemma Always.head {P : σ → Prop} {s : σ} {es : List ε} (h : M.Always P s es) : P s := by
  cases es with
  | nil => exact h
  | cons e es => exact h.1

/-- The states of a run are those reached by its prefixes. -/
lemma always_iff (P : σ → Prop) (s : σ) (es : List ε) :
    M.Always P s es ↔ ∀ pre post, es = pre ++ post → P (M.run s pre) := by
  induction es generalizing s with
  | nil =>
    refine ⟨fun h pre post hes => ?_, fun h => h [] [] rfl⟩
    obtain ⟨rfl, rfl⟩ := List.append_eq_nil_iff.mp hes.symm
    exact h
  | cons e es ih =>
    constructor
    · rintro ⟨hs, h⟩ pre post hes
      cases pre with
      | nil => exact hs
      | cons e' pre =>
        rw [List.cons_append, List.cons.injEq] at hes
        obtain ⟨rfl, hes⟩ := hes
        exact (ih _).mp h pre post hes
    · intro h
      refine ⟨h [] _ rfl, (ih _).mpr fun pre post hes => ?_⟩
      exact h (e :: pre) post (by simp [hes])

lemma AllSteps.imp {C D : σ → ε → Prop} (h : ∀ s e, C s e → D s e) {s : σ} {es : List ε}
    (hC : M.AllSteps C s es) : M.AllSteps D s es := by
  induction es generalizing s with
  | nil => trivial
  | cons e es ih => exact ⟨h s e hC.1, ih hC.2⟩

lemma AllSteps.and {C D : σ → ε → Prop} {s : σ} {es : List ε} (hC : M.AllSteps C s es)
    (hD : M.AllSteps D s es) : M.AllSteps (fun s e => C s e ∧ D s e) s es := by
  rw [allSteps_iff] at *
  intro past e future hsplit
  exact ⟨hC past e future hsplit, hD past e future hsplit⟩

variable {M}

/-- **The invariant rule.**  What every admissible step preserves holds at the end of every
admissible run. -/
theorem run_invariant {C : σ → ε → Prop} {I : σ → Prop}
    (hstep : ∀ s e, C s e → I s → I (M.step s e).1) {s : σ} {es : List ε}
    (hC : M.AllSteps C s es) (hs : I s) : I (M.run s es) := by
  induction es generalizing s with
  | nil => exact hs
  | cons e es ih => exact ih hC.2 (hstep s e hC.1 hs)

/-- **The history rule.**  The invariant may speak about the inputs handled so far; the step
then starts from the state they led to. -/
theorem run_history {I : List ε → σ → Prop} {s : σ} (hinit : I [] s)
    (hstep : ∀ past e, I past (M.run s past) →
      I (past ++ [e]) (M.step (M.run s past) e).1)
    (es : List ε) : I es (M.run s es) := by
  induction es using List.reverseRecOn with
  | nil => exact hinit
  | append_singleton es e ih =>
    rw [M.run_concat]
    exact hstep es e ih

/-- **The history rule for admissible runs.** -/
theorem run_history_of_allSteps {C : σ → ε → Prop} {I : List ε → σ → Prop} {s : σ}
    (hinit : I [] s)
    (hstep : ∀ past e, C (M.run s past) e → I past (M.run s past) →
      I (past ++ [e]) (M.step (M.run s past) e).1)
    {es : List ε} (hC : M.AllSteps C s es) : I es (M.run s es) := by
  induction es using List.reverseRecOn with
  | nil => exact hinit
  | append_singleton es e ih =>
    rw [M.allSteps_append] at hC
    rw [M.run_concat]
    exact hstep es e hC.2.1 (ih hC.1)

/-- **The last-write rule.**  When every input either writes what a view shows or leaves it alone,
a run ends with the last value written. -/
theorem view_of_writes {ν : Type*} (view : σ → ν) (write : ε → Option ν)
    (hstep : ∀ s e, view (M.step s e).1 = (write e).getD (view s)) (s : σ) (es : List ε) :
    view (M.run s es) = (es.filterMap write).getLast?.getD (view s) := by
  induction es using List.reverseRecOn with
  | nil => rfl
  | append_singleton es e ih =>
    rw [M.run_concat, hstep, ih, List.filterMap_append]
    cases hwrite : write e with
    | none => rw [List.filterMap_cons_none hwrite, List.filterMap_nil, List.append_nil]; rfl
    | some v => rw [List.filterMap_cons_some hwrite, List.filterMap_nil, List.getLast?_concat]; rfl

/-- The last-write rule for the whole state. -/
theorem run_of_writes {write : ε → Option σ}
    (hstep : ∀ s e, (M.step s e).1 = (write e).getD s) (s : σ) (es : List ε) :
    M.run s es = (es.filterMap write).getLast?.getD s :=
  view_of_writes id write hstep s es

/-! ## How often something happens -/

variable (M) in
/-- How many steps of the run meet the condition `C`. -/
def countSteps (C : σ → ε → Prop) [∀ s e, Decidable (C s e)] : σ → List ε → ℕ
  | _, [] => 0
  | s, e :: es => (if C s e then 1 else 0) + countSteps C (M.step s e).1 es

/-- Where every state has a property that is preserved and rules the condition out, no step meets
it. -/
lemma countSteps_eq_zero {C : σ → ε → Prop} [∀ s e, Decidable (C s e)] {J : σ → Prop}
    (hstep : ∀ s e, J s → J (M.step s e).1) (hout : ∀ s e, J s → ¬ C s e) {s : σ} (hs : J s)
    (es : List ε) : M.countSteps C s es = 0 := by
  induction es generalizing s with
  | nil => rfl
  | cons e es ih =>
    unfold countSteps
    rw [if_neg (hout s e hs), ih (hstep s e hs)]

/-- **The once rule.**  When a step that meets the condition leads to a property that is preserved
and rules the condition out, then at most one step of a run meets it. -/
theorem countSteps_le_one {C : σ → ε → Prop} [∀ s e, Decidable (C s e)] {I J : σ → Prop}
    (hinv : ∀ s e, I s → I (M.step s e).1) (hstep : ∀ s e, I s → J s → J (M.step s e).1)
    (hout : ∀ s e, J s → ¬ C s e) (honce : ∀ s e, I s → C s e → J (M.step s e).1) {s : σ}
    (hs : I s) (es : List ε) : M.countSteps C s es ≤ 1 := by
  induction es generalizing s with
  | nil => exact Nat.zero_le 1
  | cons e es ih =>
    unfold countSteps
    by_cases hC : C s e
    · have hzero : M.countSteps C (M.step s e).1 es = 0 :=
        countSteps_eq_zero (J := fun s => I s ∧ J s)
          (fun s e h => ⟨hinv s e h.1, hstep s e h.1 h.2⟩) (fun s e h => hout s e h.2)
          ⟨hinv s e hs, honce s e hs hC⟩ es
      simp only [if_pos hC, hzero, Nat.add_zero, Nat.le_refl]
    · rw [if_neg hC, Nat.zero_add]
      exact ih (hinv s e hs)

/-! ## Refinement -/

section Refinement

variable {σ' ε' ω' : Type*} {N : Machine σ' ε' ω'}

/-- **The refinement rule.**  When every admissible step of one machine is matched by a step of
another, with a related input and output and related states after it, then every run of admissible
inputs is matched by a run. -/
theorem run_refines {C : ε → Prop} {R : σ → σ' → Prop} {P : ε × ω → ε' × ω' → Prop}
    (hstep : ∀ s t e, C e → R s t → ∃ e', P (e, (M.step s e).2) (e', (N.step t e').2) ∧
      R (M.step s e).1 (N.step t e').1)
    {s : σ} {t : σ'} {es : List ε} (hC : ∀ e ∈ es, C e) (hst : R s t) :
    ∃ es', List.Forall₂ P (es.zip (M.outputs s es)) (es'.zip (N.outputs t es')) ∧
      R (M.run s es) (N.run t es') := by
  induction es generalizing s t with
  | nil => exact ⟨[], .nil, hst⟩
  | cons e es ih =>
    obtain ⟨e', hout, hnext⟩ := hstep s t e (hC e (by simp)) hst
    obtain ⟨es', houts, hlast⟩ := ih (fun i hi => hC i (List.mem_cons_of_mem e hi)) hnext
    exact ⟨e' :: es', .cons hout houts, hlast⟩

end Refinement

/-! ## Machines that emit now and then -/

section Emitted

variable (N : Machine σ ε (Option ω))

/-- What a machine that emits on some of its inputs has emitted, in order. -/
def emitted (s : σ) (es : List ε) : List ω := (N.outputs s es).reduceOption

@[simp] lemma emitted_nil (s : σ) : N.emitted s [] = [] := rfl

lemma emitted_cons (s : σ) (e : ε) (es : List ε) :
    N.emitted s (e :: es) = (N.step s e).2.toList ++ N.emitted (N.step s e).1 es := by
  unfold emitted
  rw [outputs_cons]
  cases (N.step s e).2 <;> simp [List.reduceOption]

lemma emitted_append (s : σ) (es fs : List ε) :
    N.emitted s (es ++ fs) = N.emitted s es ++ N.emitted (N.run s es) fs := by
  unfold emitted
  rw [outputs_append, List.reduceOption_append]

variable {N} in
/-- **The emission rule.**  If every admissible step preserves the invariant and emits only what
has the property, then so does every admissible run. -/
theorem emitted_forall {C : σ → ε → Prop} {I : σ → Prop} {P : ω → Prop}
    (hstep : ∀ s e, C s e → I s → I (N.step s e).1 ∧ ∀ o ∈ (N.step s e).2, P o)
    {s : σ} {es : List ε} (hC : N.AllSteps C s es) (hs : I s) : ∀ o ∈ N.emitted s es, P o := by
  induction es generalizing s with
  | nil => simp
  | cons e es ih =>
    obtain ⟨hnext, hemit⟩ := hstep s e hC.1 hs
    intro o ho
    rw [emitted_cons, List.mem_append, Option.mem_toList] at ho
    rcases ho with hnow | hlater
    · exact hemit o hnow
    · exact ih hC.2 hnext o hlater

lemma emitted_singleton (s : σ) (e : ε) : N.emitted s [e] = (N.step s e).2.toList := by
  rw [emitted_cons, emitted_nil, List.append_nil]

lemma emitted_concat (s : σ) (es : List ε) (e : ε) :
    N.emitted s (es ++ [e]) = N.emitted s es ++ (N.step (N.run s es) e).2.toList := by
  rw [emitted_append, emitted_singleton]

variable {N} in
/-- **The emission history rule.**  The invariant relates the state to what was emitted so far. -/
theorem emitted_history {C : σ → ε → Prop} {I : List ω → σ → Prop} {s : σ} (hinit : I [] s)
    (hstep : ∀ shown s e, C s e → I shown s →
      I (shown ++ (N.step s e).2.toList) (N.step s e).1)
    {es : List ε} (hC : N.AllSteps C s es) : I (N.emitted s es) (N.run s es) := by
  refine run_history_of_allSteps (I := fun past t => I (N.emitted s past) t) hinit ?_ hC
  intro past e hCe hI
  rw [emitted_concat]
  exact hstep _ _ e hCe hI

end Emitted

/-! ## Components -/

section Component

variable {σ' ε' ω' : Type*} {N : Machine σ' ε' (Option ω')}

variable (M) in
/-- The inputs a run hands on to a component, when `feed s e` is what the input `e` hands on in
the state `s`. -/
def feeds (feed : σ → ε → Option ε') : σ → List ε → List ε'
  | _, [] => []
  | s, e :: es => (feed s e).toList ++ feeds feed (M.step s e).1 es

lemma feeds_append (feed : σ → ε → Option ε') (s : σ) (es fs : List ε) :
    M.feeds feed s (es ++ fs) = M.feeds feed s es ++ M.feeds feed (M.run s es) fs := by
  induction es generalizing s with
  | nil => rfl
  | cons e es ih => simp [feeds, ih]

/-- A condition on the steps of the component is a condition on the steps that feed it. -/
lemma allSteps_feeds (feed : σ → ε → Option ε') (R : σ → σ' → Prop) {C : σ' → ε' → Prop}
    (hstep : ∀ s t e, R s t → R (M.step s e).1 (N.run t (feed s e).toList))
    {s : σ} {t : σ'} (hst : R s t) {es : List ε}
    (hC : M.AllSteps (fun s e => ∀ t, R s t → ∀ i ∈ feed s e, C t i) s es) :
    N.AllSteps C t (M.feeds feed s es) := by
  induction es generalizing s t with
  | nil => trivial
  | cons e es ih =>
    unfold feeds
    rw [N.allSteps_append]
    refine ⟨?_, ih (hstep s t e hst) hC.2⟩
    have hnow := hC.1 t hst
    cases hfeed : feed s e with
    | none => trivial
    | some i => exact ⟨hnow i (by rw [hfeed]; rfl), trivial⟩

/-- **The component rule.**  When every step of a machine is a step of the component it feeds, or
leaves the component alone, then a run of the machine holds a run of the component, and what the
machine shows of it is what the component emitted. -/
theorem run_component (feed : σ → ε → Option ε') (view : ε × ω → Option ω') (R : σ → σ' → Prop)
    (hstep : ∀ s t e, R s t → R (M.step s e).1 (N.run t (feed s e).toList) ∧
      (view (e, (M.step s e).2)).toList = N.emitted t (feed s e).toList)
    {s : σ} {t : σ'} (hst : R s t) (es : List ε) :
    R (M.run s es) (N.run t (M.feeds feed s es)) ∧
      (es.zip (M.outputs s es)).filterMap view = N.emitted t (M.feeds feed s es) := by
  induction es generalizing s t with
  | nil => exact ⟨hst, rfl⟩
  | cons e es ih =>
    obtain ⟨hnext, hview⟩ := hstep s t e hst
    obtain ⟨hrun, hout⟩ := ih hnext
    refine ⟨?_, ?_⟩
    · unfold feeds
      rw [run_cons, N.run_append]
      exact hrun
    · unfold feeds
      rw [N.emitted_append, ← hview, ← hout, outputs_cons, List.zip_cons_cons]
      cases hnow : view (e, (M.step s e).2) with
      | none => rw [List.filterMap_cons_none hnow]; rfl
      | some o => rw [List.filterMap_cons_some hnow]; rfl

end Component

end Machine

end MiniatureWarehouse
