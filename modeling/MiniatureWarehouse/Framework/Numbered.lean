import Mathlib.Data.List.Induction

/-!
# Numbered lists

A list whose elements carry the numbers from one on: what carries a number above `n` is what is
left after the first `n`.
-/

namespace MiniatureWarehouse

variable {ε : Type*} {number : ε → ℕ} {l : List ε}

/-- The elements carry the numbers from one on, in their order. -/
def Numbered (number : ε → ℕ) (l : List ε) : Prop := l.map number = List.range' 1 l.length

namespace Numbered

lemma nil (number : ε → ℕ) : Numbered number [] := rfl

lemma concat (h : Numbered number l) {x : ε} (hx : number x = l.length + 1) :
    Numbered number (l ++ [x]) := by
  have hmap : l.map number = List.range' 1 l.length := h
  unfold Numbered
  rw [List.map_append, hmap, List.map_singleton, hx, List.length_append, List.length_singleton,
    List.range'_concat, Nat.add_comm 1, Nat.one_mul]

lemma of_concat {x : ε} (h : Numbered number (l ++ [x])) :
    Numbered number l ∧ number x = l.length + 1 := by
  have hmap : (l ++ [x]).map number = List.range' 1 (l ++ [x]).length := h
  rw [List.map_append, List.map_singleton, List.length_append, List.length_singleton,
    List.range'_concat] at hmap
  obtain ⟨hinit, hlast⟩ := List.append_inj' hmap rfl
  have hx : number x = 1 + 1 * l.length := (List.cons.inj hlast).1
  exact ⟨hinit, by omega⟩

lemma getElem (h : Numbered number l) {i : ℕ} (hi : i < l.length) : number l[i] = i + 1 := by
  have hmap : l.map number = List.range' 1 l.length := h
  have hget : (l.map number)[i]? = (List.range' 1 l.length)[i]? := by rw [hmap]
  rw [List.getElem?_map, List.getElem?_eq_getElem hi, List.getElem?_range' hi] at hget
  have hi' : number l[i] = 1 + 1 * i := Option.some.inj hget
  omega

lemma pos (h : Numbered number l) {x : ε} (hx : x ∈ l) : 0 < number x := by
  obtain ⟨i, hi, rfl⟩ := List.getElem_of_mem hx
  rw [h.getElem hi]
  exact Nat.succ_pos i

/-- What carries a number above `n` is what is left after the first `n`. -/
lemma filter_lt (h : Numbered number l) (n : ℕ) :
    l.filter (fun x => decide (n < number x)) = l.drop n := by
  induction l using List.reverseRecOn with
  | nil => exact List.drop_nil.symm
  | append_singleton l x ih =>
    obtain ⟨hinit, hx⟩ := h.of_concat
    rw [List.filter_append, ih hinit, List.drop_append]
    congr 1
    by_cases hn : n ≤ l.length
    · have hlt : n < number x := by omega
      rw [Nat.sub_eq_zero_of_le hn, List.drop_zero]
      exact List.filter_cons_of_pos (decide_eq_true hlt)
    · have hge : ¬ n < number x := by omega
      obtain ⟨k, hk⟩ : ∃ k, n - l.length = k + 1 := ⟨n - l.length - 1, by omega⟩
      rw [hk, List.drop_succ_cons, List.drop_nil]
      exact List.filter_cons_of_neg (by rw [decide_eq_false hge]; exact Bool.false_ne_true)

end Numbered

end MiniatureWarehouse
