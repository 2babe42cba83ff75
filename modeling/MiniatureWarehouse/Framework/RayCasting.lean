import MiniatureWarehouse.Framework.Floats
import Mathlib.Algebra.Ring.Parity
import Mathlib.Data.List.Rotate
import Mathlib.Tactic.FieldSimp
import Mathlib.Tactic.Ring

/-!
# Ray casting

A point lies inside a closed polygon when a ray from it crosses the edges an odd number of times.
An edge crosses the horizontal ray when its ends lie on both sides of the height of the point and
its abscissa at that height is beyond the point.  The abscissa is computed from one of the two ends.

For numbers it does not matter which end that is (`crosses_comm`), so that the test does not depend
on the direction in which a polygon is read; for a vertex at infinity it does.
-/

namespace MiniatureWarehouse

namespace RayCasting

/-! ## Closed polygons -/

section Edges

variable {β : Type*}

/-- Each vertex with the next one, the last with the first. -/
def closedEdges (vs : List β) : List (β × β) := vs.zip (vs.rotate 1)

/-- How many edges meet a test. -/
def crossingNumber (test : β → β → Bool) (vs : List β) : ℕ :=
  (closedEdges vs).countP fun e => test e.1 e.2

lemma mem_of_mem_closedEdges {vs : List β} {e : β × β} (h : e ∈ closedEdges vs) :
    e.1 ∈ vs ∧ e.2 ∈ vs := by
  obtain ⟨hleft, hright⟩ := List.of_mem_zip (a := e.1) (b := e.2) h
  exact ⟨hleft, List.mem_rotate.mp hright⟩

/-- Tests that agree on the edges cross equally often. -/
lemma crossingNumber_congr {test test' : β → β → Bool} {vs : List β}
    (h : ∀ a ∈ vs, ∀ b ∈ vs, test a b = test' a b) :
    crossingNumber test vs = crossingNumber test' vs := by
  refine List.countP_congr fun e he => ?_
  obtain ⟨hleft, hright⟩ := mem_of_mem_closedEdges he
  rw [h e.1 hleft e.2 hright]

/-- The edges of a path that starts at a vertex. -/
def path : β → List β → List (β × β)
  | _, [] => []
  | a, b :: vs => (a, b) :: path b vs

lemma path_append (a : β) (vs : List β) (b : β) :
    path a (vs ++ [b]) = path a vs ++ [(vs.getLastD a, b)] := by
  induction vs generalizing a with
  | nil => rfl
  | cons c vs ih =>
    rw [List.cons_append, path, ih, path, List.cons_append, List.getLastD_cons]

lemma zip_tail_append (a b : β) (vs : List β) :
    (a :: vs).zip (vs ++ [b]) = path a (vs ++ [b]) := by
  induction vs generalizing a with
  | nil => rfl
  | cons c vs ih =>
    rw [List.cons_append, List.zip_cons_cons, ih, path]

/-- The closed polygon is the path around, back to the first vertex. -/
lemma closedEdges_cons (v : β) (vs : List β) : closedEdges (v :: vs) = path v (vs ++ [v]) := by
  unfold closedEdges
  rw [List.rotate_cons_succ, List.rotate_zero]
  exact zip_tail_append v v vs

/-- The crossings of a closed polygon, when the edge that closes it is counted first. -/
lemma crossingNumber_cons (test : β → β → Bool) (v : β) (vs : List β) :
    crossingNumber test (v :: vs) =
      (path (vs.getLastD v) (v :: vs)).countP fun e => test e.1 e.2 := by
  unfold crossingNumber
  rw [closedEdges_cons, path_append, path, List.countP_append, List.countP_cons, List.countP_cons,
    List.countP_nil, Nat.zero_add]

lemma map_fst_closedEdges (vs : List β) : (closedEdges vs).map Prod.fst = vs :=
  List.map_fst_zip (by rw [List.length_rotate])

lemma closedEdges_map {γ : Type*} (f : β → γ) (vs : List β) :
    closedEdges (vs.map f) = (closedEdges vs).map (Prod.map f f) := by
  unfold closedEdges
  rw [← List.map_rotate, List.zip_map]

/-- Fewer than three vertices are crossed an even number of times, when both directions of an edge
are crossed alike and no vertex is an edge. -/
lemma not_odd_crossingNumber {test : β → β → Bool} {vs : List β} (hlength : vs.length < 3)
    (hself : ∀ a ∈ vs, test a a = false) (hcomm : ∀ a ∈ vs, ∀ b ∈ vs, test a b = test b a) :
    ¬ Odd (crossingNumber test vs) := by
  match vs, hlength with
  | [], _ => exact Nat.not_odd_zero
  | [a], _ =>
    have hnone : crossingNumber test [a] = 0 := by
      rw [crossingNumber, closedEdges_cons, List.nil_append, path, path, List.countP_singleton,
        hself a List.mem_cons_self]
      rfl
    rw [hnone]
    exact Nat.not_odd_zero
  | [a, b], _ =>
    have htwice : crossingNumber test [a, b] = 2 * (if test a b = true then 1 else 0) := by
      rw [crossingNumber, closedEdges_cons, List.singleton_append, path, path, path,
        List.countP_cons, List.countP_singleton]
      dsimp only
      rw [hcomm b (by simp) a (by simp), ← two_mul]
    rw [htwice]
    exact Nat.not_odd_iff_even.mpr (even_two_mul _)

/-- A mark that is flipped at one more edge. -/
lemma bne_odd_succ (inside crossed : Bool) (n : ℕ) :
    ((inside != crossed) != decide (Odd n)) =
      (inside != decide (Odd (n + if crossed = true then 1 else 0))) := by
  cases crossed with
  | false => simp
  | true =>
    rw [if_pos rfl, decide_eq_decide.mpr Nat.odd_add_one, decide_not]
    cases inside <;> simp

end Edges

/-! ## Edges and rays -/

section Rays

variable {α : Type*} [Field α] [LinearOrder α] [IsStrictOrderedRing α]

/-- The ends of an edge lie on both sides of a height, the height itself being below it. -/
def straddles (y : PyFloat α) (a b : PyFloat α × PyFloat α) : Bool :=
  decide (y < a.2) != decide (y < b.2)

/-- The abscissa of an edge at a height, computed from its first end. -/
def abscissa (F : FloatFormat α) (y : PyFloat α) (a b : PyFloat α × PyFloat α) : PyFloat α :=
  F.add (F.div (F.mul (F.sub b.1 a.1) (F.sub y a.2)) (F.sub b.2 a.2)) a.1

/-- The edge crosses the ray from the point. -/
def crosses (F : FloatFormat α) (x y : PyFloat α) (a b : PyFloat α × PyFloat α) : Bool :=
  straddles y a b && decide (x < abscissa F y a b)

omit [Field α] [IsStrictOrderedRing α] in
lemma straddles_comm (y : PyFloat α) (a b : PyFloat α × PyFloat α) :
    straddles y a b = straddles y b a := by
  unfold straddles
  exact Bool.xor_comm _ _

omit [Field α] [IsStrictOrderedRing α] in
lemma straddles_self (y : PyFloat α) (a : PyFloat α × PyFloat α) : straddles y a a = false := by
  unfold straddles
  exact Bool.xor_self _

/-- The abscissa is not divided by zero. -/
lemma sub_ne_zero_of_straddles {y : PyFloat α} {a b : PyFloat α × PyFloat α}
    (h : straddles y a b = true) : (FloatFormat.exact α).sub b.2 a.2 ≠ .fin 0 := by
  intro hzero
  obtain ⟨ax, ay⟩ := a
  obtain ⟨bx, b_y⟩ := b
  have hsame : ay = b_y := by
    cases ay <;> cases b_y <;>
      simp_all [FloatFormat.sub, FloatFormat.add, FloatFormat.exact, PyFloat.neg]
    linarith
  rw [hsame] at h
  unfold straddles at h
  simp at h

/-- A vertex of two numbers. -/
def FiniteVertex (v : PyFloat α × PyFloat α) : Prop := v.1.isFinite = true ∧ v.2.isFinite = true

/-- Between numbers it does not matter from which end the abscissa is computed. -/
lemma abscissa_comm {y : PyFloat α} {a b : PyFloat α × PyFloat α} (hy : y.isFinite = true)
    (ha : FiniteVertex a) (hb : FiniteVertex b) (h : straddles y a b = true) :
    abscissa (FloatFormat.exact α) y a b = abscissa (FloatFormat.exact α) y b a := by
  obtain ⟨y, rfl⟩ := PyFloat.isFinite_iff.mp hy
  obtain ⟨ax, ay⟩ := a
  obtain ⟨bx, b_y⟩ := b
  obtain ⟨hax, hay⟩ := ha
  obtain ⟨hbx, hby⟩ := hb
  obtain ⟨ax, rfl⟩ := PyFloat.isFinite_iff.mp hax
  obtain ⟨ay, rfl⟩ := PyFloat.isFinite_iff.mp hay
  obtain ⟨bx, rfl⟩ := PyFloat.isFinite_iff.mp hbx
  obtain ⟨b_y, rfl⟩ := PyFloat.isFinite_iff.mp hby
  have hne : b_y - ay ≠ 0 := by
    intro hzero
    have hsame : ay = b_y := by linarith
    rw [hsame, straddles] at h
    simp at h
  have hne' : ay - b_y ≠ 0 := by
    intro hzero
    exact hne (by linarith)
  show PyFloat.fin ((bx + -ax) * (y + -ay) / (b_y + -ay) + ax) =
    .fin ((ax + -bx) * (y + -b_y) / (ay + -b_y) + bx)
  rw [← sub_eq_add_neg, ← sub_eq_add_neg, ← sub_eq_add_neg, ← sub_eq_add_neg, ← sub_eq_add_neg,
    ← sub_eq_add_neg]
  congr 1
  field_simp
  ring

/-- Between numbers a ray crosses an edge in both directions or in none. -/
theorem crosses_comm {x y : PyFloat α} {a b : PyFloat α × PyFloat α} (hy : y.isFinite = true)
    (ha : FiniteVertex a) (hb : FiniteVertex b) :
    crosses (FloatFormat.exact α) x y a b = crosses (FloatFormat.exact α) x y b a := by
  unfold crosses
  rw [straddles_comm y b a]
  cases hstraddles : straddles y a b with
  | false => rfl
  | true => rw [abscissa_comm hy ha hb hstraddles]

end Rays

end RayCasting

end MiniatureWarehouse
