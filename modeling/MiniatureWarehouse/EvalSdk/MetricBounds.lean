import MiniatureWarehouse.Framework.Interpolation
import MiniatureWarehouse.Framework.StableSort
import MiniatureWarehouse.Framework.Values

/-!
# The ranges of the metrics

The statistics of the evaluation kit over exact arithmetic: a percentile read between the sorted
values, success weighted by path length, and the fairness of a distribution of loads.

The loads are as fair as they are close to each other: `card_mul_sum_sq_sub` writes what the index
falls short of one by as the sum of their squared differences.
-/

namespace MiniatureWarehouse

namespace EvalSdk

/-- The exception classes the statistics raise. -/
inductive StatsError
  | valueError
  | indexError
  | typeError
  deriving DecidableEq, Repr

variable {α : Type*} [Field α] [LinearOrder α]

/-! ## The statistics -/

section Model

/-- `xs[i]`: a negative index counts from the end. -/
def pyIndex (xs : List α) (i : ℤ) : Except StatsError α :=
  let j := if i < 0 then i + xs.length else i
  if j < 0 then .error .indexError
  else match xs[j.toNat]? with
    | some x => .ok x
    | none => .error .indexError

/-- `percentile`. -/
def percentile [FloorRing α] (values : List α) (pct : α) : Except StatsError (Option α) :=
  if values.isEmpty then .ok none
  else
    let ordered := sortBy id values
    if ordered.length = 1 then (pyIndex ordered 0).map some
    else
      let rank := ((ordered.length - 1 : ℕ) : α) * (pct / 100)
      let low := truncate rank
      let high := min (low + 1) ((ordered.length - 1 : ℕ) : ℤ)
      if low = high then (pyIndex ordered low).map some
      else do
        let atLow ← pyIndex ordered low
        let atHigh ← pyIndex ordered high
        pure (some (atLow + (atHigh - atLow) * (rank - low)))

/-- `success_rate`. -/
def successRate (successes : List Bool) : Option α :=
  if successes.isEmpty then none else some (successes.count true / successes.length)

/-- `spl_metric`. -/
def splMetric (success : Bool) (optimal travelled : α) : Option α :=
  if success = false then some 0
  else if optimal < 0 then none
  else if optimal = 0 then some (if travelled = 0 then 1 else 0)
  else some (optimal / max travelled optimal)

/-- The episodes with a shortest path to compare with. -/
def evaluable (successes : List Bool) (shortest actual : List α) : List (Bool × α × α) :=
  (successes.zip (shortest.zip actual)).filter fun e => ¬ e.2.1 ≤ 0

/-- A term of the sum of `spl`, which is over numbers. -/
def splTerm (e : Bool × α × α) : Except StatsError α :=
  match splMetric e.1 e.2.1 e.2.2 with
  | some term => .ok term
  | none => .error .typeError

/-- `spl`. -/
def spl (successes : List Bool) (shortest actual : List α) : Except StatsError (Option α) :=
  if successes.length = shortest.length ∧ shortest.length = actual.length then do
    let terms ← (evaluable successes shortest actual).mapM splTerm
    pure (if terms.isEmpty then none else some (terms.sum / terms.length))
  else .error .valueError

/-- `jain_fairness_index`. -/
def jainFairnessIndex (loads : List α) : Except StatsError (Option α) :=
  if loads.isEmpty then .ok none
  else if loads.any (· < 0) then .error .valueError
  else
    let total := loads.sum
    let sumOfSquares := (loads.map fun load => load * load).sum
    if sumOfSquares = 0 then .ok none
    else .ok (some (total * total / (loads.length * sumOfSquares)))

end Model

/-! ## Percentiles -/

section Percentile

omit [LinearOrder α] in
lemma pyIndex_natCast {xs : List α} {k : ℕ} (hk : k < xs.length) :
    pyIndex xs k = .ok (clamped xs k) := by
  have hnonneg : ¬ (k : ℤ) < 0 := by omega
  unfold pyIndex
  simp only [if_neg hnonneg, Int.toNat_natCast, getElem?_clamped hk]

/-- The rank of a percentile among the indices. -/
def rankOf (values : List α) (pct : α) : α := ((values.length - 1 : ℕ) : α) * (pct / 100)

variable [IsStrictOrderedRing α]

lemma rankOf_nonneg (values : List α) {pct : α} (h0 : 0 ≤ pct) : 0 ≤ rankOf values pct :=
  mul_nonneg (Nat.cast_nonneg _) (div_nonneg h0 (by norm_num))

lemma rankOf_le (values : List α) {pct : α} (h100 : pct ≤ 100) :
    rankOf values pct ≤ ((values.length - 1 : ℕ) : α) := by
  have hone : pct / 100 ≤ 1 := (div_le_one (by norm_num)).mpr h100
  calc rankOf values pct ≤ ((values.length - 1 : ℕ) : α) * 1 :=
        mul_le_mul_of_nonneg_left hone (Nat.cast_nonneg _)
    _ = ((values.length - 1 : ℕ) : α) := mul_one _

variable [FloorRing α]

/-- **A percentile is an interpolation** of the sorted values. -/
lemma percentile_eq {values : List α} (hvalues : values ≠ []) {pct : α} (h0 : 0 ≤ pct)
    (h100 : pct ≤ 100) :
    percentile values pct =
      .ok (some (interpolate (clamped (sortBy id values)) (rankOf values pct))) := by
  have hlength : (sortBy id values).length = values.length := (perm_sortBy id values).length_eq
  have hpos : 0 < values.length := List.length_pos_iff.mpr hvalues
  have hrank0 := rankOf_nonneg values h0
  have hlow : truncate (rankOf values pct) = (⌊rankOf values pct⌋₊ : ℤ) := by
    rw [truncate_of_nonneg hrank0, Int.natCast_floor_eq_floor hrank0]
  have hfloor : ⌊rankOf values pct⌋₊ ≤ values.length - 1 := by
    have hle := Nat.floor_mono (rankOf_le values h100)
    rwa [Nat.floor_natCast] at hle
  have hlowIndex : pyIndex (sortBy id values) (⌊rankOf values pct⌋₊ : ℤ) =
      .ok (clamped (sortBy id values) ⌊rankOf values pct⌋₊) :=
    pyIndex_natCast (by omega)
  unfold percentile
  rw [if_neg (by simpa using hvalues)]
  dsimp only
  have hrank : ((values.length - 1 : ℕ) : α) * (pct / 100) = rankOf values pct := rfl
  rw [hlength, hrank, hlow]
  split_ifs with hone hlast
  · -- a single value is every percentile
    have hindex : pyIndex (sortBy id values) 0 = .ok (clamped (sortBy id values) 0) :=
      pyIndex_natCast (k := 0) (by omega)
    have hzero : ⌊rankOf values pct⌋₊ = 0 := by omega
    have hconst : clamped (sortBy id values) 1 = clamped (sortBy id values) 0 := by
      unfold clamped
      rw [hlength, hone]
      rfl
    rw [hindex]
    unfold interpolate
    rw [hzero, hconst, sub_self, zero_mul, add_zero]
    rfl
  · -- the last index, past which the sequence stays the same
    have heq : ⌊rankOf values pct⌋₊ = values.length - 1 := by omega
    have hconst : clamped (sortBy id values) (⌊rankOf values pct⌋₊ + 1) =
        clamped (sortBy id values) ⌊rankOf values pct⌋₊ := by
      have hmin : min (values.length - 1 + 1) (values.length - 1) =
          min (values.length - 1) (values.length - 1) := by omega
      unfold clamped
      rw [hlength, heq, hmin]
    rw [hlowIndex]
    unfold interpolate
    rw [hconst, sub_self, zero_mul, add_zero]
    rfl
  · have hhigh : min ((⌊rankOf values pct⌋₊ : ℤ) + 1) ((values.length - 1 : ℕ) : ℤ) =
        ((⌊rankOf values pct⌋₊ + 1 : ℕ) : ℤ) := by omega
    have hnext : pyIndex (sortBy id values) ((⌊rankOf values pct⌋₊ + 1 : ℕ) : ℤ) =
        .ok (clamped (sortBy id values) (⌊rankOf values pct⌋₊ + 1)) :=
      pyIndex_natCast (by omega)
    rw [hlowIndex, hhigh, hnext, Int.cast_natCast]
    rfl

omit [IsStrictOrderedRing α] in
lemma perm_percentile {values values' : List α} (h : values.Perm values') (pct : α) :
    percentile values pct = percentile values' pct := by
  have hsorted : sortBy id values = sortBy id values' := by
    refine List.Perm.eq_of_pairwise ?_ (pairwise_sortBy id values) (pairwise_sortBy id values') ?_
    · exact fun a b _ _ hab hba => le_antisymm hab hba
    · exact (perm_sortBy id values).trans (h.trans (perm_sortBy id values').symm)
  have hempty : values.isEmpty = values'.isEmpty := by
    rw [Bool.eq_iff_iff, List.isEmpty_iff, List.isEmpty_iff]
    exact ⟨fun hnil => by subst hnil; exact h.nil_eq.symm, fun hnil => by subst hnil; exact h.eq_nil⟩
  unfold percentile
  rw [hsorted, hempty]

/-- A percentile lies between the least and the greatest value. -/
lemma percentile_mem_range {values : List α} (hvalues : values ≠ []) {pct : α} (h0 : 0 ≤ pct) :
    ∃ lo ∈ values, ∃ hi ∈ values, (∀ x ∈ values, lo ≤ x ∧ x ≤ hi) ∧
      lo ≤ interpolate (clamped (sortBy id values)) (rankOf values pct) ∧
      interpolate (clamped (sortBy id values)) (rankOf values pct) ≤ hi := by
  have hperm := perm_sortBy id values
  have hsorted : sortBy id values ≠ [] := by
    intro hnil
    rw [hnil] at hperm
    exact hvalues hperm.nil_eq.symm
  have hmono := clamped_mono hsorted (pairwise_sortBy id values)
  have hrank0 := rankOf_nonneg values h0
  set last := (sortBy id values).length - 1 with hlast
  refine ⟨clamped (sortBy id values) 0, hperm.subset (clamped_mem hsorted 0),
    clamped (sortBy id values) last, hperm.subset (clamped_mem hsorted last), ?_, ?_, ?_⟩
  · intro x hx
    obtain ⟨k, hk, hget⟩ := List.getElem_of_mem (hperm.symm.subset hx)
    have hclamped : clamped (sortBy id values) k = x := by
      have hsome := getElem?_clamped hk
      rw [List.getElem?_eq_getElem hk, hget] at hsome
      exact (Option.some.inj hsome).symm
    rw [← hclamped]
    exact ⟨hmono (Nat.zero_le k), hmono (by omega)⟩
  · exact (hmono (Nat.zero_le _)).trans (le_interpolate hmono hrank0)
  · have hclip : clamped (sortBy id values) (⌊rankOf values pct⌋₊ + 1) ≤
        clamped (sortBy id values) last := by
      have hsame : clamped (sortBy id values) (⌊rankOf values pct⌋₊ + 1) =
          clamped (sortBy id values) (min (⌊rankOf values pct⌋₊ + 1) last) := by
        unfold clamped
        rw [← hlast, min_assoc, min_self]
      rw [hsame]
      exact hmono (min_le_right _ _)
    exact (interpolate_le hmono).trans hclip

end Percentile

/-! ## Success weighted by path length -/

section Spl

variable [IsStrictOrderedRing α]

/-- The term of an episode that can be evaluated is at most its success. -/
lemma splTerm_of_pos {e : Bool × α × α} (h : ¬ e.2.1 ≤ 0) :
    ∃ term, splTerm e = .ok term ∧ 0 ≤ term ∧ term ≤ if e.1 then 1 else 0 := by
  obtain ⟨success, optimal, travelled⟩ := e
  have hpos : 0 < optimal := not_le.mp h
  have hmax : 0 < max travelled optimal := hpos.trans_le (le_max_right _ _)
  cases success with
  | false => exact ⟨0, rfl, le_rfl, by simp⟩
  | true =>
    refine ⟨optimal / max travelled optimal, ?_, (div_pos hpos hmax).le, ?_⟩
    · unfold splTerm splMetric
      simp [hpos.not_gt, hpos.ne']
    · rw [if_pos rfl]
      exact (div_le_one hmax).mpr (le_max_right _ _)

/-- The terms sum to at most the number of successes. -/
lemma sum_splTerm {es : List (Bool × α × α)} (hes : ∀ e ∈ es, ¬ e.2.1 ≤ 0) {terms : List α}
    (h : List.Forall₂ (fun e term => splTerm e = .ok term) es terms) :
    0 ≤ terms.sum ∧ terms.sum ≤ ((es.map Prod.fst).count true : ℕ) ∧
      terms.length = es.length := by
  induction h with
  | nil => simp
  | @cons e term es terms hterm _ ih =>
    obtain ⟨hhead, htail⟩ := List.forall_mem_cons.mp hes
    obtain ⟨hsum0, hsum, hlength⟩ := ih htail
    obtain ⟨term', hterm', hterm0, hterm1⟩ := splTerm_of_pos hhead
    obtain rfl : term = term' := Except.ok.inj (hterm.symm.trans hterm')
    have hcount : (((e :: es).map Prod.fst).count true : α) =
        (((es.map Prod.fst).count true : ℕ) : α) + if e.1 then 1 else 0 := by
      rw [List.map_cons, List.count_cons]
      cases e.1 <;> simp
    rw [List.sum_cons, List.length_cons, List.length_cons, hlength, hcount]
    exact ⟨add_nonneg hterm0 hsum0, by linarith, rfl⟩

/-- **SPL is a share**, and at most the success rate of the episodes it is over. -/
lemma spl_bounds {successes : List Bool} {shortest actual : List α}
    (hlengths : successes.length = shortest.length ∧ shortest.length = actual.length) :
    ∃ value, spl successes shortest actual = .ok value ∧
      ∀ v, value = some v → 0 ≤ v ∧ v ≤ 1 ∧
        ∃ rate, successRate ((evaluable successes shortest actual).map Prod.fst) = some rate ∧
          v ≤ rate := by
  have hes : ∀ e ∈ evaluable successes shortest actual, ¬ e.2.1 ≤ 0 := by
    intro e he
    simpa using (List.mem_filter.mp he).2
  obtain ⟨terms, hterms⟩ := exists_mapM_eq_ok.mpr fun e he =>
    (splTerm_of_pos (hes e he)).imp fun _ h => h.1
  obtain ⟨hsum0, hsum, hlength⟩ := sum_splTerm hes (forall₂_of_mapM_eq_ok hterms)
  refine ⟨if terms.isEmpty then none else some (terms.sum / terms.length), ?_, ?_⟩
  · unfold spl
    rw [if_pos hlengths, hterms]
    rfl
  · intro v hv
    by_cases hempty : terms = []
    · subst hempty
      cases hv
    · rw [if_neg (by simpa using hempty)] at hv
      obtain rfl := Option.some.inj hv
      have hne : ((evaluable successes shortest actual).map Prod.fst).isEmpty = false := by
        rw [List.isEmpty_eq_false_iff, ← List.length_pos_iff, List.length_map, ← hlength]
        exact List.length_pos_iff.mpr hempty
      have hpos : (0 : α) < terms.length := Nat.cast_pos.mpr (List.length_pos_iff.mpr hempty)
      have hrate : terms.sum / terms.length ≤
          (((evaluable successes shortest actual).map Prod.fst).count true : α) /
            ((evaluable successes shortest actual).map Prod.fst).length := by
        rw [List.length_map, ← hlength]
        exact div_le_div_of_nonneg_right hsum hpos.le
      have hone : (((evaluable successes shortest actual).map Prod.fst).count true : α) /
          ((evaluable successes shortest actual).map Prod.fst).length ≤ 1 :=
        div_le_one_of_le₀ (Nat.cast_le.mpr List.count_le_length) (Nat.cast_nonneg _)
      exact ⟨div_nonneg hsum0 hpos.le, hrate.trans hone, _, if_neg (by simp [hne]), hrate⟩

end Spl

/-! ## Fairness -/

section Fairness

variable [IsStrictOrderedRing α]

/-- The sum of the squares. -/
def sumSq (loads : List α) : α := (loads.map fun load => load * load).sum

/-- The squared differences of all pairs of loads. -/
def spread : List α → α
  | [] => 0
  | a :: loads => spread loads + (loads.map fun x => (x - a) ^ 2).sum

omit [LinearOrder α] [IsStrictOrderedRing α] in
lemma sum_sq_sub (a : α) (loads : List α) :
    (loads.map fun x => (x - a) ^ 2).sum =
      sumSq loads - 2 * a * loads.sum + loads.length * a ^ 2 := by
  induction loads with
  | nil => simp [sumSq]
  | cons x loads ih =>
    unfold sumSq at *
    rw [List.map_cons, List.sum_cons, ih, List.map_cons, List.sum_cons, List.sum_cons,
      List.length_cons]
    push_cast
    ring

omit [LinearOrder α] [IsStrictOrderedRing α] in
/-- What the square of the sum falls short of by. -/
lemma card_mul_sum_sq_sub (loads : List α) :
    loads.length * sumSq loads - loads.sum ^ 2 = spread loads := by
  induction loads with
  | nil => simp [sumSq, spread]
  | cons a loads ih =>
    have hsq : sumSq (a :: loads) = a * a + sumSq loads := by
      unfold sumSq
      rw [List.map_cons, List.sum_cons]
    rw [spread, ← ih, sum_sq_sub, hsq, List.sum_cons, List.length_cons]
    push_cast
    ring

lemma sum_sq_sub_nonneg (a : α) (loads : List α) : 0 ≤ (loads.map fun x => (x - a) ^ 2).sum :=
  List.sum_nonneg (by simp only [List.forall_mem_map]; exact fun x _ => sq_nonneg _)

lemma spread_nonneg : ∀ loads : List α, 0 ≤ spread loads
  | [] => le_rfl
  | a :: loads => add_nonneg (spread_nonneg loads) (sum_sq_sub_nonneg a loads)

/-- **The equality case.**  Nothing is missing only when all loads are the same. -/
lemma spread_eq_zero_iff (loads : List α) :
    spread loads = 0 ↔ ∀ x ∈ loads, ∀ y ∈ loads, x = y := by
  induction loads with
  | nil => simp [spread]
  | cons a loads ih =>
    have hhead : (loads.map fun x => (x - a) ^ 2).sum = 0 ↔ ∀ x ∈ loads, x = a := by
      constructor
      · intro hzero x hx
        have hterms : ∀ y ∈ loads.map fun x => (x - a) ^ 2, 0 ≤ y := by
          simp only [List.forall_mem_map]
          exact fun y _ => sq_nonneg _
        have hterm := List.all_zero_of_le_zero_le_of_sum_eq_zero hterms hzero
          (List.mem_map_of_mem (f := fun x => (x - a) ^ 2) hx)
        exact sub_eq_zero.mp (pow_eq_zero_iff two_ne_zero |>.mp hterm)
      · intro hall
        have hzeros : (loads.map fun x => (x - a) ^ 2) = loads.map fun _ => 0 :=
          List.map_congr_left fun x hx => by rw [hall x hx, sub_self, zero_pow two_ne_zero]
        rw [hzeros, List.map_const', List.sum_replicate, nsmul_zero]
    rw [spread, add_eq_zero_iff_of_nonneg (spread_nonneg loads) (sum_sq_sub_nonneg a loads), ih,
      hhead]
    constructor
    · rintro ⟨hall, ha⟩ x hx y hy
      have heq : ∀ z ∈ a :: loads, z = a := List.forall_mem_cons.mpr ⟨rfl, ha⟩
      exact (heq x hx).trans (heq y hy).symm
    · intro hall
      exact ⟨fun x hx y hy => hall x (List.mem_cons_of_mem a hx) y (List.mem_cons_of_mem a hy),
        fun x hx => hall x (List.mem_cons_of_mem a hx) a List.mem_cons_self⟩

/-- Loads that are not negative lose by being squared one by one. -/
lemma sumSq_le_sq_sum {loads : List α} (h : ∀ x ∈ loads, 0 ≤ x) : sumSq loads ≤ loads.sum ^ 2 := by
  induction loads with
  | nil => simp [sumSq]
  | cons a loads ih =>
    obtain ⟨ha, hrest⟩ := List.forall_mem_cons.mp h
    have hcross : 0 ≤ a * loads.sum := mul_nonneg ha (List.sum_nonneg hrest)
    have hsq : sumSq (a :: loads) = a * a + sumSq loads := by
      unfold sumSq
      rw [List.map_cons, List.sum_cons]
    rw [hsq, List.sum_cons]
    nlinarith [ih hrest]

lemma sumSq_pos {loads : List α} (h : ∃ x ∈ loads, x ≠ 0) : 0 < sumSq loads := by
  obtain ⟨x, hx, hne⟩ := h
  have hnonneg : ∀ y ∈ loads.map fun load => load * load, 0 ≤ y := by
    simp only [List.forall_mem_map]
    exact fun y _ => mul_self_nonneg y
  have hle : x * x ≤ sumSq loads :=
    List.single_le_sum hnonneg _ (List.mem_map_of_mem (f := fun load => load * load) hx)
  exact (mul_self_pos.mpr hne).trans_le hle

/-- The index of loads that are not negative and not all zero. -/
lemma jain_eq {loads : List α} (hnonneg : ∀ x ∈ loads, 0 ≤ x) (hsome : ∃ x ∈ loads, x ≠ 0) :
    jainFairnessIndex loads =
      .ok (some (loads.sum * loads.sum / (loads.length * sumSq loads))) := by
  have hne : loads ≠ [] := by
    rintro rfl
    obtain ⟨x, hx, -⟩ := hsome
    exact List.not_mem_nil hx
  have hneg : loads.any (· < 0) = false := by
    rw [List.any_eq_false]
    exact fun x hx => by simpa using hnonneg x hx
  have hsq : (loads.map fun load => load * load).sum ≠ 0 := (sumSq_pos hsome).ne'
  unfold jainFairnessIndex
  rw [if_neg (by simpa using hne), hneg, if_neg Bool.false_ne_true]
  dsimp only
  rw [if_neg hsq]
  rfl

/-- **Jain's index** lies between one share and one, and is one exactly when all loads are equal. -/
lemma jain_bounds {loads : List α} (hnonneg : ∀ x ∈ loads, 0 ≤ x) (hsome : ∃ x ∈ loads, x ≠ 0) :
    ∃ index, jainFairnessIndex loads = .ok (some index) ∧ 1 / loads.length ≤ index ∧ index ≤ 1 ∧
      (index = 1 ↔ ∀ x ∈ loads, ∀ y ∈ loads, x = y) := by
  have hsq := sumSq_pos hsome
  have hlength : (0 : α) < loads.length := by
    obtain ⟨x, hx, -⟩ := hsome
    exact Nat.cast_pos.mpr (List.length_pos_of_mem hx)
  have hden : 0 < loads.length * sumSq loads := mul_pos hlength hsq
  have hspread := card_mul_sum_sq_sub loads
  refine ⟨_, jain_eq hnonneg hsome, ?_, ?_, ?_⟩
  · rw [div_le_div_iff₀ hlength hden]
    nlinarith [mul_le_mul_of_nonneg_left (sumSq_le_sq_sum hnonneg) hlength.le]
  · rw [div_le_one hden]
    linarith [spread_nonneg loads]
  · rw [← spread_eq_zero_iff, div_eq_one_iff_eq hden.ne']
    constructor <;> intro h <;> linarith

lemma perm_jain {loads loads' : List α} (h : loads.Perm loads')
    (hnonneg : ∀ x ∈ loads, 0 ≤ x) (hsome : ∃ x ∈ loads, x ≠ 0) :
    jainFairnessIndex loads' = jainFairnessIndex loads := by
  have hnonneg' : ∀ x ∈ loads', 0 ≤ x := fun x hx => hnonneg x (h.symm.subset hx)
  have hsome' : ∃ x ∈ loads', x ≠ 0 := by
    obtain ⟨x, hx, hne⟩ := hsome
    exact ⟨x, h.subset hx, hne⟩
  have hsq : sumSq loads' = sumSq loads := ((h.symm.map fun load => load * load)).sum_eq
  rw [jain_eq hnonneg hsome, jain_eq hnonneg' hsome', h.sum_eq, h.length_eq, hsq]

lemma scale_jain {loads : List α} {c : α} (hc : 0 < c) (hnonneg : ∀ x ∈ loads, 0 ≤ x)
    (hsome : ∃ x ∈ loads, x ≠ 0) :
    jainFairnessIndex (loads.map (c * ·)) = jainFairnessIndex loads := by
  have hnonneg' : ∀ x ∈ loads.map (c * ·), 0 ≤ x := by
    simp only [List.forall_mem_map]
    exact fun x hx => mul_nonneg hc.le (hnonneg x hx)
  have hsome' : ∃ x ∈ loads.map (c * ·), x ≠ 0 := by
    obtain ⟨x, hx, hne⟩ := hsome
    exact ⟨c * x, List.mem_map_of_mem hx, mul_ne_zero hc.ne' hne⟩
  have hsum : (loads.map (c * ·)).sum = c * loads.sum := by
    rw [List.sum_map_mul_left, List.map_id']
  have hsq : sumSq (loads.map (c * ·)) = c * c * sumSq loads := by
    unfold sumSq
    rw [List.map_map, ← List.sum_map_mul_left]
    congr 1
    refine List.map_congr_left fun x _ => ?_
    show c * x * (c * x) = c * c * (x * x)
    ring
  have hsqPos := (sumSq_pos hsome).ne'
  rw [jain_eq hnonneg hsome, jain_eq hnonneg' hsome', hsum, hsq, List.length_map]
  congr 2
  obtain ⟨x, hx, -⟩ := hsome
  have hlength : (loads.length : α) ≠ 0 :=
    Nat.cast_ne_zero.mpr (List.length_pos_of_mem hx).ne'
  field_simp

end Fairness

/-- **The ranges of the metrics.**  The fairness of loads lies between one share and one, is one
exactly for equal loads, and depends neither on their order nor on their unit; SPL is a share and
at most the success rate of its episodes; and a percentile depends on the values alone, grows with
the percentage, and lies between the least and the greatest value. -/
theorem metric_bounds (α : Type*) [Field α] [LinearOrder α] [IsStrictOrderedRing α] [FloorRing α] :
    (∀ loads : List α, (∀ x ∈ loads, 0 ≤ x) → (∃ x ∈ loads, x ≠ 0) →
      (∃ index, jainFairnessIndex loads = .ok (some index) ∧ 1 / loads.length ≤ index ∧
        index ≤ 1 ∧ (index = 1 ↔ ∀ x ∈ loads, ∀ y ∈ loads, x = y)) ∧
      (∀ loads', loads.Perm loads' → jainFairnessIndex loads' = jainFairnessIndex loads) ∧
      ∀ c, 0 < c → jainFairnessIndex (loads.map (c * ·)) = jainFairnessIndex loads) ∧
    (∀ (successes : List Bool) (shortest actual : List α),
      successes.length = shortest.length ∧ shortest.length = actual.length →
      ∃ value, spl successes shortest actual = .ok value ∧
        ∀ v, value = some v → 0 ≤ v ∧ v ≤ 1 ∧
          ∃ rate, successRate ((evaluable successes shortest actual).map Prod.fst) = some rate ∧
            v ≤ rate) ∧
    ∀ values : List α, values ≠ [] →
      (∀ values' pct, values.Perm values' → percentile values pct = percentile values' pct) ∧
      (∀ p q, 0 ≤ p → p ≤ q → q ≤ 100 →
        ∃ a b, percentile values p = .ok (some a) ∧ percentile values q = .ok (some b) ∧ a ≤ b) ∧
      ∀ p, 0 ≤ p → p ≤ 100 → ∃ a, percentile values p = .ok (some a) ∧
        ∃ lo ∈ values, ∃ hi ∈ values, (∀ x ∈ values, lo ≤ x ∧ x ≤ hi) ∧ lo ≤ a ∧ a ≤ hi := by
  refine ⟨fun loads hnonneg hsome => ⟨jain_bounds hnonneg hsome, ?_, ?_⟩, ?_, ?_⟩
  · exact fun loads' h => perm_jain h hnonneg hsome
  · exact fun c hc => scale_jain hc hnonneg hsome
  · exact fun successes shortest actual hlengths => spl_bounds hlengths
  · intro values hvalues
    refine ⟨fun values' pct h => perm_percentile h pct, ?_, ?_⟩
    · intro p q h0 hpq h100
      have hsorted : sortBy id values ≠ [] := by
        intro hnil
        have hperm := perm_sortBy id values
        rw [hnil] at hperm
        exact hvalues hperm.nil_eq.symm
      have hrank : rankOf values p ≤ rankOf values q :=
        mul_le_mul_of_nonneg_left (div_le_div_of_nonneg_right hpq (by norm_num)) (Nat.cast_nonneg _)
      exact ⟨_, _, percentile_eq hvalues h0 (hpq.trans h100),
        percentile_eq hvalues (h0.trans hpq) h100,
        interpolate_mono (clamped_mono hsorted (pairwise_sortBy id values))
          (rankOf_nonneg values h0) hrank⟩
    · intro p h0 h100
      exact ⟨_, percentile_eq hvalues h0 h100, percentile_mem_range hvalues h0⟩

theorem metric_bounds_rational :
    (∃ index, jainFairnessIndex [(1 : ℚ), 2, 3] = .ok (some index) ∧ index ≤ 1) ∧
      (∃ value, spl [true, true] [(4 : ℚ), 0] [5, 1] = .ok value) ∧
      ∃ a b, percentile [(3 : ℚ), 1, 2] 10 = .ok (some a) ∧
        percentile [(3 : ℚ), 1, 2] 90 = .ok (some b) ∧ a ≤ b := by
  obtain ⟨hjain, hspl, hpercentile⟩ := metric_bounds ℚ
  obtain ⟨⟨index, hindex, -, hone, -⟩, -, -⟩ :=
    hjain [1, 2, 3] (by decide +kernel) ⟨1, List.mem_cons_self, one_ne_zero⟩
  obtain ⟨value, hvalue, -⟩ := hspl [true, true] [4, 0] [5, 1] ⟨rfl, rfl⟩
  exact ⟨⟨index, hindex, hone⟩, ⟨value, hvalue⟩,
    (hpercentile [3, 1, 2] (by simp)).2.1 10 90 (by norm_num) (by norm_num) (by norm_num)⟩

example : percentile [(3 : ℚ), 1, 2] 25 = .ok (some (3 / 2)) ∧
    spl [true, false] [(4 : ℚ), 1] [5, 1] = .ok (some (2 / 5)) := by
  decide +kernel

end EvalSdk

end MiniatureWarehouse
