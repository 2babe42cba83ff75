import MiniatureWarehouse.Framework.Dict
import MiniatureWarehouse.Framework.StableSort
import Mathlib

/-!
# Tables of counters

A report counts events under a key and a column: a row is made the first time its key is seen, and
the rows are printed in the order of their keys.  A mark is one increment, and `tally` is the table
after a list of marks.

The row of a key counts the marks with that key (`get?_tally`).  So the printed rows do not depend
on the order of the marks, and over all of them a column counts the marks of that column, wherever
they fell.
-/

namespace MiniatureWarehouse

section Tally

variable {κ γ : Type*} [DecidableEq κ] [DecidableEq γ]

/-- `table.setdefault(k, zeros)[c] += 1`, for the mark `(k, c)`. -/
def bump (table : Dict κ (γ → ℕ)) (mark : κ × γ) : Dict κ (γ → ℕ) :=
  let row := table.getD mark.1 fun _ => 0
  table.set mark.1 (Function.update row mark.2 (row mark.2 + 1))

/-- The table of a list of marks. -/
def tally (marks : List (κ × γ)) : Dict κ (γ → ℕ) := marks.foldl bump .empty

/-- The row of a key counts its marks, and a key without marks has no row. -/
theorem get?_tally (marks : List (κ × γ)) (k : κ) :
    (tally marks).get? k =
      if k ∈ marks.map Prod.fst then some fun c => marks.count (k, c) else none := by
  induction marks using List.reverseRecOn with
  | nil => rfl
  | append_singleton marks mark ih =>
    have hbump : tally (marks ++ [mark]) = bump (tally marks) mark := by
      unfold tally
      rw [List.foldl_append, List.foldl_cons, List.foldl_nil]
    rw [hbump]
    unfold bump
    dsimp only
    rw [Dict.get?_set]
    by_cases hk : k = mark.1
    · subst hk
      have hrow : (tally marks).getD mark.1 (fun _ => 0) = fun c => marks.count (mark.1, c) := by
        unfold Dict.getD
        rw [ih]
        split_ifs with hmem
        · rfl
        · funext c
          refine (List.count_eq_zero_of_not_mem fun hc => hmem ?_).symm
          exact List.mem_map.mpr ⟨_, hc, rfl⟩
      rw [if_pos rfl, if_pos (by simp), hrow]
      congr 1
      funext c
      by_cases hc : c = mark.2
      · subst hc
        rw [Function.update_self, List.count_append, List.count_singleton_self]
      · rw [Function.update_of_ne hc, List.count_append,
          List.count_eq_zero_of_not_mem (l := [mark]), Nat.add_zero]
        intro hmem
        exact hc (congrArg Prod.snd (List.mem_singleton.mp hmem))
    · have hmem : k ∈ (marks ++ [mark]).map Prod.fst ↔ k ∈ marks.map Prod.fst := by simp [hk]
      have hcount : ∀ c, (marks ++ [mark]).count (k, c) = marks.count (k, c) := by
        intro c
        rw [List.count_append, List.count_eq_zero_of_not_mem (l := [mark]), Nat.add_zero]
        intro hc
        exact hk (congrArg Prod.fst (List.mem_singleton.mp hc))
      rw [if_neg hk, ih]
      simp only [hmem, hcount]

end Tally

/-! ## Printed rows -/

section Rows

variable {κ γ : Type*} [LinearOrder κ] [DecidableEq γ]

/-- `[(k, table[k]) for k in sorted(table)]`. -/
def sortedRows {ν : Type*} (table : Dict κ ν) (zero : ν) : List (κ × ν) :=
  (sortBy id (table.entries.map Prod.fst)).map fun k => (k, table.getD k zero)

/-- The keys are printed in increasing order, none twice. -/
lemma pairwise_sortedKeys {ν : Type*} (table : Dict κ ν) :
    (sortBy id (table.entries.map Prod.fst)).Pairwise (· < ·) := by
  have hnodup : (sortBy id (table.entries.map Prod.fst)).Nodup :=
    (perm_sortBy id _).nodup_iff.mpr table.nodup
  exact ((pairwise_sortBy id _).and hnodup).imp fun h => lt_of_le_of_ne h.1 h.2

lemma map_fst_sortedRows {ν : Type*} (table : Dict κ ν) (zero : ν) :
    (sortedRows table zero).map Prod.fst = sortBy id (table.entries.map Prod.fst) := by
  unfold sortedRows
  rw [List.map_map, Function.comp_def, List.map_id']

lemma mem_sortedKeys {ν : Type*} (table : Dict κ ν) (k : κ) :
    k ∈ sortBy id (table.entries.map Prod.fst) ↔ table.get? k ≠ none := by
  rw [(perm_sortBy id _).mem_iff]
  exact (not_iff_comm.mp Dict.find_eq_none.symm).symm

/-- Two tables with the same rows are printed alike. -/
lemma sortedRows_congr {ν : Type*} {table table' : Dict κ ν}
    (h : ∀ k, table.get? k = table'.get? k) (zero : ν) :
    sortedRows table zero = sortedRows table' zero := by
  have hkeys : sortBy id (table.entries.map Prod.fst) =
      sortBy id (table'.entries.map Prod.fst) := by
    apply (pairwise_sortedKeys table).eq_of_mem_iff (pairwise_sortedKeys table')
    intro k
    rw [mem_sortedKeys, mem_sortedKeys, h k]
  unfold sortedRows Dict.getD
  rw [hkeys]
  exact List.map_congr_left fun k _ => by rw [h k]

/-- The printed table does not depend on the order of the marks. -/
theorem sortedRows_tally_perm {marks marks' : List (κ × γ)} (h : marks.Perm marks') :
    sortedRows (tally marks) (fun _ => 0) = sortedRows (tally marks') fun _ => 0 := by
  apply sortedRows_congr
  intro k
  have hmem : k ∈ marks.map Prod.fst ↔ k ∈ marks'.map Prod.fst := (h.map Prod.fst).mem_iff
  simp only [get?_tally, hmem, h.count_eq]

/-- Marks counted key by key are counted once each. -/
lemma sum_map_count {keys : List κ} (hkeys : keys.Nodup) {marks : List (κ × γ)}
    (hcovered : ∀ mark ∈ marks, mark.1 ∈ keys) (c : γ) :
    (keys.map fun k => marks.count (k, c)).sum = marks.countP fun mark => mark.2 = c := by
  induction marks with
  | nil => simp
  | cons mark marks ih =>
    have hone : (keys.map fun k => if mark == (k, c) then 1 else 0).sum =
        if mark.2 = c then 1 else 0 := by
      rw [List.sum_map_eq_nsmul_single mark.1,
        List.count_eq_one_of_mem hkeys (hcovered mark List.mem_cons_self), one_nsmul]
      · simp [Prod.ext_iff]
      · intro k hk _
        simp [Prod.ext_iff, Ne.symm hk]
    simp only [List.count_cons, List.countP_cons, List.sum_map_add, decide_eq_true_eq]
    rw [ih fun m hm => hcovered m (List.mem_cons_of_mem _ hm), hone]

/-- Over the printed rows a column counts its marks. -/
theorem sum_sortedRows_tally (marks : List (κ × γ)) (c : γ) :
    ((sortedRows (tally marks) fun _ => 0).map fun row => row.2 c).sum =
      marks.countP fun mark => mark.2 = c := by
  have hrow : ∀ k ∈ sortBy id ((tally marks).entries.map Prod.fst),
      (tally marks).getD k (fun _ => 0) c = marks.count (k, c) := by
    intro k hk
    rw [mem_sortedKeys, get?_tally] at hk
    unfold Dict.getD
    rw [get?_tally]
    split_ifs at hk ⊢
    · rfl
    · exact absurd rfl hk
  unfold sortedRows
  rw [List.map_map, Function.comp_def, List.map_congr_left hrow]
  apply sum_map_count ((pairwise_sortedKeys _).imp ne_of_lt)
  intro mark hmark
  rw [mem_sortedKeys, get?_tally, if_pos (List.mem_map_of_mem hmark)]
  exact Option.some_ne_none _

end Rows

end MiniatureWarehouse
