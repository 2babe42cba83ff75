import MiniatureWarehouse.Framework.Runs
import Mathlib.Data.Finset.SDiff
import Mathlib.Data.List.GetD
import Mathlib.Data.Nat.Find

/-!
# Rising edges of a level signal

A component that is asked at every tick which alarms hold has a *level*: a set of active keys
for each tick.  A notification must go out once for each maximal stretch of ticks in which a key
is active, so it belongs to the *rising edges* of the level.

`MaximalRun` is such a stretch, `Rises` such an edge.  Every run starts with the one edge inside
it (`MaximalRun.existsUnique_rises`), and every edge starts a run (`Rises.exists_maximalRun`).
`edgeLatch` is the machine that computes the edges from the level with the previous tick as its
only memory, and `mem_outputs_edgeLatch` says that it does.

The edges of a value that is not a set are its `changes`.  A level may also be given by the inputs
that begin it and the inputs that end it: `Since` is the level between them.
-/

namespace MiniatureWarehouse

namespace Edges

variable {κ : Type*} {level : ℕ → Set κ} {k : κ} {i j n : ℕ}

/-- The key is active at this tick and was not at the tick before. -/
def Rises (level : ℕ → Set κ) (k : κ) (n : ℕ) : Prop :=
  k ∈ level n ∧ ∀ m, m + 1 = n → k ∉ level m

/-- A maximal run of consecutive ticks in which the key is active: the ticks from `i` on and
before `j`. -/
structure MaximalRun (level : ℕ → Set κ) (k : κ) (i j : ℕ) : Prop where
  lt : i < j
  active : ∀ n, i ≤ n → n < j → k ∈ level n
  before : ∀ m, m + 1 = i → k ∉ level m
  after : k ∉ level j

/-- Inside a run only its first tick is a rising edge. -/
lemma MaximalRun.rises_iff (h : MaximalRun level k i j) (hi : i ≤ n) (hj : n < j) :
    Rises level k n ↔ n = i := by
  constructor
  · rintro ⟨-, hprev⟩
    by_contra hne
    -- the tick before `n` is still inside the run
    obtain ⟨m, rfl⟩ : ∃ m, n = m + 1 := ⟨n - 1, by omega⟩
    exact hprev m rfl (h.active m (by omega) (by omega))
  · intro hn
    rw [hn]
    exact ⟨h.active i le_rfl h.lt, h.before⟩

/-- **One edge for each run.** -/
lemma MaximalRun.existsUnique_rises (h : MaximalRun level k i j) :
    ∃! n, (i ≤ n ∧ n < j) ∧ Rises level k n := by
  refine ⟨i, ⟨⟨le_rfl, h.lt⟩, (h.rises_iff le_rfl h.lt).mpr rfl⟩, ?_⟩
  intro n ⟨⟨hi, hj⟩, hn⟩
  exact (h.rises_iff hi hj).mp hn

/-- An edge of a signal that goes away at some later tick starts a maximal run. -/
lemma Rises.exists_maximalRun (h : Rises level k i) (hend : ∃ m, i ≤ m ∧ k ∉ level m) :
    ∃ j, MaximalRun level k i j := by
  classical
  -- the run ends at the first later tick at which the key is inactive
  obtain ⟨hle, hnot⟩ := Nat.find_spec hend
  refine ⟨Nat.find hend, ?_, ?_, h.2, hnot⟩
  · rcases Nat.lt_or_eq_of_le hle with hlt | heq
    · exact hlt
    · exact absurd (heq ▸ h.1) hnot
  · intro n hn hlt
    by_contra hk
    exact Nat.find_min hend hlt ⟨hn, hk⟩

/-! ## The latch -/

section Latch

variable [DecidableEq κ]

/-- The machine that remembers the keys of the previous tick and puts out the new ones. -/
def edgeLatch : Machine (Finset κ) (Finset κ) (Finset κ) where
  step active now := (now, now \ active)

/-- The level of a finite sequence of ticks: nothing is active after the last one. -/
def levelOf (ticks : List (Finset κ)) (n : ℕ) : Set κ := ↑(ticks.getD n ∅)

/-- From any memory: a key is put out when it is active, was not at the tick before, and, at
the first tick, was not remembered. -/
lemma mem_outputs_edgeLatch_from (active : Finset κ) (ticks : List (Finset κ)) (n : ℕ) :
    k ∈ (edgeLatch.outputs active ticks).getD n ∅ ↔
      Rises (levelOf ticks) k n ∧ (n = 0 → k ∉ active) := by
  induction ticks generalizing active n with
  | nil => simp [Rises, levelOf]
  | cons now ticks ih =>
    cases n with
    | zero => simp [edgeLatch, Rises, levelOf]
    | succ n =>
      have htail : (edgeLatch.outputs active (now :: ticks)).getD (n + 1) ∅ =
          (edgeLatch.outputs now ticks).getD n ∅ := rfl
      rw [htail, ih now n]
      cases n with
      | zero => simp [Rises, levelOf]
      | succ n => simp [Rises, levelOf]

/-- **The latch puts out exactly the rising edges.** -/
lemma mem_outputs_edgeLatch (ticks : List (Finset κ)) (k : κ) (n : ℕ) :
    k ∈ (edgeLatch.outputs ∅ ticks).getD n ∅ ↔ Rises (levelOf ticks) k n := by
  rw [mem_outputs_edgeLatch_from]
  simp

end Latch

/-! ## Changes of a sequence -/

section Changes

variable {ν : Type*} [DecidableEq ν]

/-- How often a value differs from the one just before it. -/
def changes : List ν → ℕ
  | [] => 0
  | [_] => 0
  | v :: w :: vs => (if w ≠ v then 1 else 0) + changes (w :: vs)

/-- One more value counts when there was a value before it, and another one. -/
lemma changes_concat (vs : List ν) (v : ν) :
    changes (vs ++ [v]) = changes vs + (if ∃ u, vs.getLast? = some u ∧ v ≠ u then 1 else 0) := by
  induction vs with
  | nil => simp [changes]
  | cons w vs ih =>
    cases vs with
    | nil => simp [changes]
    | cons x xs =>
      have hlast : (w :: x :: xs).getLast? = (x :: xs).getLast? := List.getLast?_cons_cons
      have hstep : changes (w :: x :: (xs ++ [v])) =
          (if x ≠ w then 1 else 0) + changes (x :: (xs ++ [v])) := rfl
      rw [List.cons_append] at ih
      rw [List.cons_append, List.cons_append, hstep, ih, hlast, ← Nat.add_assoc]
      rfl

end Changes

/-! ## Levels between inputs -/

section Since

variable {ε : Type*} {begins ends : ε → Prop}

/-- An input has begun the level, and none after it has ended it. -/
def Since (begins ends : ε → Prop) (es : List ε) : Prop :=
  ∃ pre e post, es = pre ++ e :: post ∧ begins e ∧ ∀ e' ∈ post, ¬ ends e'

lemma not_since_nil : ¬ Since begins ends [] := by
  rintro ⟨pre, e, post, hes, -⟩
  exact List.cons_ne_nil e post (List.append_eq_nil_iff.mp hes.symm).2

/-- One more input begins the level, or lets it go on. -/
lemma since_concat (es : List ε) (e : ε) :
    Since begins ends (es ++ [e]) ↔ begins e ∨ Since begins ends es ∧ ¬ ends e := by
  constructor
  · rintro ⟨pre, e', post, hes, hbegins, hpost⟩
    rcases List.eq_nil_or_concat post with rfl | ⟨post', last, rfl⟩
    · have hlast := List.append_inj' hes rfl
      exact .inl ((List.singleton_inj.mp hlast.2) ▸ hbegins)
    · rw [List.concat_eq_append] at hes hpost
      rw [← List.cons_append, ← List.append_assoc] at hes
      have hlast := List.append_inj' hes rfl
      obtain rfl : e = last := List.singleton_inj.mp hlast.2
      refine .inr ⟨⟨pre, e', post', hlast.1, hbegins, ?_⟩, ?_⟩
      · intro e'' he''
        exact hpost e'' (List.mem_append_left _ he'')
      · exact hpost e (by simp)
  · rintro (hbegins | ⟨⟨pre, e', post, rfl, hbegins, hpost⟩, hgoes⟩)
    · exact ⟨es, e, [], rfl, hbegins, by simp⟩
    · refine ⟨pre, e', post ++ [e], by simp, hbegins, ?_⟩
      intro e'' he''
      rcases List.mem_append.mp he'' with hold | hnew
      · exact hpost e'' hold
      · rw [List.mem_singleton.mp hnew]
        exact hgoes

end Since

end Edges

end MiniatureWarehouse
