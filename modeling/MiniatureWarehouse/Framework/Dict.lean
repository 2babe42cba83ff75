import Mathlib.Data.List.Basic
import Mathlib.Data.List.Forall2
import Mathlib.Data.List.Nodup

/-!
# Insertion-ordered dictionaries

The mutable maps of the program are dictionaries that remember insertion order: assigning to
a present key keeps its place, assigning to a fresh one appends it.  A `Dict κ ν` is the list
of entries in that order together with the fact that no key occurs twice, so lookup, deletion
and filtering need no side condition.

Everything a later proof needs is an equation about `get?` under one of the updates.
-/

namespace MiniatureWarehouse

/-- A dictionary: its entries in insertion order, no key twice. -/
structure Dict (κ ν : Type*) where
  entries : List (κ × ν)
  nodup : (entries.map Prod.fst).Nodup

namespace Dict

variable {κ ν : Type*} [DecidableEq κ]

instance [DecidableEq ν] : DecidableEq (Dict κ ν) := fun d e =>
  decidable_of_iff (d.entries = e.entries)
    ⟨fun h => by cases d; cases e; simp_all, fun h => h ▸ rfl⟩

/-! ## The entry lists -/

/-- The value stored under `k` in a list of entries. -/
def find : List (κ × ν) → κ → Option ν
  | [], _ => none
  | (k', v) :: es, k => if k' = k then some v else find es k

/-- Assignment in a list of entries: in place when the key is present, else at the end. -/
def assign : List (κ × ν) → κ → ν → List (κ × ν)
  | [], k, v => [(k, v)]
  | (k', v') :: es, k, v => if k' = k then (k', v) :: es else (k', v') :: assign es k v

lemma find_eq_none {es : List (κ × ν)} {k : κ} : find es k = none ↔ k ∉ es.map Prod.fst := by
  induction es with
  | nil => simp [find]
  | cons e es ih =>
    obtain ⟨k', v⟩ := e
    by_cases h : k' = k
    · simp [find, h]
    · simp [find, h, ih, Ne.symm h]

lemma find_filter {es : List (κ × ν)} (h : (es.map Prod.fst).Nodup) (p : κ → ν → Bool) (k : κ) :
    find (es.filter fun e => p e.1 e.2) k = (find es k).filter (p k) := by
  induction es with
  | nil => rfl
  | cons e es ih =>
    obtain ⟨k', v⟩ := e
    simp only [List.map_cons, List.nodup_cons] at h
    by_cases hk : k' = k
    · subst hk
      have hes : find es k' = none := find_eq_none.mpr h.1
      cases hp : p k' v <;> simp [find, hp, ih h.2, hes, Option.filter]
    · cases hp : p k' v <;> simp [find, hp, hk, ih h.2]

lemma keys_assign (es : List (κ × ν)) (k : κ) (v : ν) :
    (assign es k v).map Prod.fst =
      if k ∈ es.map Prod.fst then es.map Prod.fst else es.map Prod.fst ++ [k] := by
  induction es with
  | nil => simp [assign]
  | cons e es ih =>
    obtain ⟨k', v'⟩ := e
    by_cases h : k' = k
    · simp [assign, h]
    · by_cases hm : k ∈ es.map Prod.fst
      · rw [if_pos (by simpa using .inr (by simpa using hm))]
        simp [assign, h, ih, hm]
      · rw [if_neg (by simpa [Ne.symm h] using hm)]
        simp [assign, h, ih, hm]

lemma nodup_assign {es : List (κ × ν)} (h : (es.map Prod.fst).Nodup) (k : κ) (v : ν) :
    ((assign es k v).map Prod.fst).Nodup := by
  rw [keys_assign]
  split_ifs with hk
  · exact h
  · rw [List.nodup_append]
    refine ⟨h, List.nodup_singleton k, ?_⟩
    rintro a ha b hb rfl
    exact hk (List.mem_singleton.mp hb ▸ ha)

/-- Assigning to a fresh key appends it. -/
lemma assign_of_notMem {es : List (κ × ν)} {k : κ} (h : k ∉ es.map Prod.fst) (v : ν) :
    assign es k v = es ++ [(k, v)] := by
  induction es with
  | nil => rfl
  | cons e es ih =>
    rw [List.map_cons, List.mem_cons, not_or] at h
    rw [assign, if_neg (Ne.symm h.1), ih h.2, List.cons_append]

lemma find_assign (es : List (κ × ν)) (k : κ) (v : ν) (j : κ) :
    find (assign es k v) j = if j = k then some v else find es j := by
  induction es with
  | nil => simp [assign, find, eq_comm]
  | cons e es ih =>
    obtain ⟨k', v'⟩ := e
    by_cases hk : k' = k
    · subst hk
      by_cases hj : k' = j
      · simp [assign, find, hj]
      · simp [assign, find, hj, Ne.symm hj]
    · by_cases hj : k' = j
      · subst hj
        simp [assign, find, hk]
      · simp [assign, find, hk, hj, ih]

lemma find_eq_some_iff {es : List (κ × ν)} (h : (es.map Prod.fst).Nodup) {k : κ} {v : ν} :
    find es k = some v ↔ (k, v) ∈ es := by
  induction es with
  | nil => simp [find]
  | cons e es ih =>
    obtain ⟨k', v'⟩ := e
    simp only [List.map_cons, List.nodup_cons] at h
    by_cases hk : k' = k
    · subst hk
      have hes : ∀ w, (k', w) ∉ es := fun w hw => h.1 (List.mem_map.mpr ⟨_, hw, rfl⟩)
      simp [find, hes, eq_comm]
    · simp [find, hk, Ne.symm hk, ih h.2]

/-- A lookup does not depend on the order of entries whose keys are distinct. -/
lemma find_eq_of_perm {es es' : List (κ × ν)} (h : es.Perm es') (hes : (es.map Prod.fst).Nodup) :
    find es = find es' := by
  have hes' : (es'.map Prod.fst).Nodup := (h.map Prod.fst).nodup_iff.mp hes
  funext k
  apply Option.ext
  intro v
  rw [find_eq_some_iff hes, find_eq_some_iff hes', h.mem_iff]

/-- Assigning changes the number of entries with a property by the old and the new value of the
key alone. -/
lemma countP_assign (p : ν → Bool) (es : List (κ × ν)) (k : κ) (v : ν) :
    (assign es k v).countP (fun e => p e.2) + ((find es k).filter p).toList.length =
      es.countP (fun e => p e.2) + if p v then 1 else 0 := by
  induction es with
  | nil => cases hv : p v <;> simp [assign, find, hv]
  | cons e es ih =>
    obtain ⟨k', w⟩ := e
    by_cases hk : k' = k
    · cases hv : p v <;> cases hw : p w <;> simp [assign, find, hk, hv, hw, Option.filter]
    · simp only [assign, find, if_neg hk, List.countP_cons]
      omega

/-! ## The dictionary operations -/

/-- The empty dictionary. -/
def empty : Dict κ ν := ⟨[], List.nodup_nil⟩

/-- `d.get(k)`. -/
def get? (d : Dict κ ν) (k : κ) : Option ν := find d.entries k

/-- `d.get(k, v)`. -/
def getD (d : Dict κ ν) (k : κ) (v : ν) : ν := (d.get? k).getD v

/-- `k in d`. -/
def contains (d : Dict κ ν) (k : κ) : Bool := (d.get? k).isSome

/-- `d[k] = v`. -/
def set (d : Dict κ ν) (k : κ) (v : ν) : Dict κ ν := ⟨assign d.entries k v, nodup_assign d.nodup k v⟩

/-- The entries that satisfy `p`, in order: a dictionary comprehension with a condition. -/
def filter (d : Dict κ ν) (p : κ → ν → Bool) : Dict κ ν :=
  ⟨d.entries.filter fun e => p e.1 e.2, d.nodup.sublist (List.filter_sublist.map _)⟩

/-- `d.pop(k, None)`, for its effect. -/
def erase (d : Dict κ ν) (k : κ) : Dict κ ν := d.filter fun k' _ => k' ≠ k

/-- A dictionary comprehension over `d.items()` whose values may fail to be computed. -/
def collect {ε μ : Type*} (d : Dict κ ν) (f : κ → ν → Except ε μ) : Except ε (Dict κ μ) :=
  d.entries.foldlM (fun acc e => (f e.1 e.2).map (acc.set e.1)) empty

/-- `d.setdefault(k, v)`, for its effect. -/
def setDefault (d : Dict κ ν) (k : κ) (v : ν) : Dict κ ν := if d.contains k then d else d.set k v

/-- The same keys with computed values: a dictionary comprehension over `d.items()`. -/
def mapValues {μ : Type*} (d : Dict κ ν) (f : κ → ν → μ) : Dict κ μ :=
  ⟨d.entries.map fun e => (e.1, f e.1 e.2), by simpa [Function.comp_def] using d.nodup⟩

@[simp] lemma get?_empty (k : κ) : (empty : Dict κ ν).get? k = none := rfl

lemma get?_set (d : Dict κ ν) (k : κ) (v : ν) (j : κ) :
    (d.set k v).get? j = if j = k then some v else d.get? j :=
  find_assign d.entries k v j

@[simp] lemma get?_set_self (d : Dict κ ν) (k : κ) (v : ν) : (d.set k v).get? k = some v := by
  simp [get?_set]

lemma get?_set_of_ne (d : Dict κ ν) {k j : κ} (v : ν) (h : j ≠ k) :
    (d.set k v).get? j = d.get? j := by
  simp [get?_set, h]

lemma get?_filter (d : Dict κ ν) (p : κ → ν → Bool) (k : κ) :
    (d.filter p).get? k = (d.get? k).filter (p k) :=
  find_filter d.nodup p k

lemma get?_erase (d : Dict κ ν) (k j : κ) :
    (d.erase k).get? j = if j = k then none else d.get? j := by
  rw [erase, get?_filter]
  split_ifs with h
  · cases d.get? j <;> simp [h]
  · cases d.get? j <;> simp [h]

@[simp] lemma get?_erase_self (d : Dict κ ν) (k : κ) : (d.erase k).get? k = none := by
  simp [get?_erase]

lemma get?_erase_of_ne (d : Dict κ ν) {k j : κ} (h : j ≠ k) : (d.erase k).get? j = d.get? j := by
  simp [get?_erase, h]

/-- Removing an absent key changes nothing. -/
lemma erase_of_get?_eq_none {d : Dict κ ν} {k : κ} (h : d.get? k = none) : d.erase k = d := by
  have hkeep : d.entries.filter (fun e => decide (e.1 ≠ k)) = d.entries := by
    rw [List.filter_eq_self]
    intro e he
    have hkey : e.1 ≠ k := by
      rintro rfl
      exact find_eq_none.mp h (List.mem_map_of_mem he)
    exact decide_eq_true hkey
  obtain ⟨es, hes⟩ := d
  unfold erase filter
  congr 1

lemma get?_setDefault (d : Dict κ ν) (k : κ) (v : ν) (j : κ) :
    (d.setDefault k v).get? j = if j = k then some (d.getD k v) else d.get? j := by
  unfold setDefault contains getD
  by_cases hj : j = k
  · subst hj
    cases h : d.get? j <;> simp [h]
  · cases h : d.get? k <;> simp [hj, get?_set]

lemma get?_mapValues {μ : Type*} (d : Dict κ ν) (f : κ → ν → μ) (k : κ) :
    (d.mapValues f).get? k = (d.get? k).map (f k) := by
  obtain ⟨es, h⟩ := d
  unfold get? mapValues
  induction es with
  | nil => rfl
  | cons e es ih =>
    obtain ⟨k', v⟩ := e
    by_cases hk : k' = k
    · subst hk
      simp [find]
    · have hes : (es.map Prod.fst).Nodup := (List.nodup_cons.mp h).2
      simpa [find, hk] using ih hes

/-- A comprehension that did not fail has the keys of the dictionary, with their computed values. -/
lemma get?_collect {ε μ : Type*} {d : Dict κ ν} {f : κ → ν → Except ε μ} {c : Dict κ μ}
    (h : d.collect f = .ok c) (k : κ) :
    d.get? k = none ∧ c.get? k = none ∨
      ∃ v w, d.get? k = some v ∧ f k v = .ok w ∧ c.get? k = some w := by
  have hfold : ∀ (es : List (κ × ν)) (acc : Dict κ μ), (es.map Prod.fst).Nodup →
      es.foldlM (fun acc e => (f e.1 e.2).map (acc.set e.1)) acc = .ok c →
      find es k = none ∧ c.get? k = acc.get? k ∨
        ∃ v w, find es k = some v ∧ f k v = .ok w ∧ c.get? k = some w := by
    intro es
    induction es with
    | nil =>
      intro acc _ hc
      obtain rfl : acc = c := Except.ok.inj hc
      exact .inl ⟨rfl, rfl⟩
    | cons e es ih =>
      obtain ⟨k', v⟩ := e
      intro acc hnodup hc
      obtain ⟨hhead, htail⟩ := List.nodup_cons.mp hnodup
      cases hf : f k' v with
      | error e =>
        simp only [List.foldlM_cons, hf] at hc
        cases hc
      | ok w =>
        simp only [List.foldlM_cons, hf] at hc
        rw [find]
        by_cases hk : k' = k
        · subst hk
          rw [if_pos rfl]
          rcases ih (acc.set k' w) htail hc with ⟨-, hget⟩ | ⟨v', w', hfind, -⟩
          · exact .inr ⟨v, w, rfl, hf, hget.trans (get?_set_self acc k' w)⟩
          · rw [find_eq_none.mpr hhead] at hfind
            cases hfind
        · rw [if_neg hk]
          rcases ih (acc.set k' w) htail hc with ⟨hnone, hget⟩ | hsome
          · exact .inl ⟨hnone, hget.trans (get?_set_of_ne acc w (Ne.symm hk))⟩
          · exact .inr hsome
  exact hfold d.entries empty d.nodup h

lemma mapValues_set {μ : Type*} (d : Dict κ ν) (f : κ → ν → μ) (k : κ) (v : ν) :
    (d.set k v).mapValues f = (d.mapValues f).set k (f k v) := by
  have hassign : ∀ es : List (κ × ν), (assign es k v).map (fun e => (e.1, f e.1 e.2)) =
      assign (es.map fun e => (e.1, f e.1 e.2)) k (f k v) := by
    intro es
    induction es with
    | nil => rfl
    | cons e es ih =>
      obtain ⟨k', w⟩ := e
      by_cases hk : k' = k
      · simp [assign, hk]
      · simp [assign, hk, ih]
  unfold mapValues set
  congr 1
  exact hassign d.entries

lemma mapValues_erase {μ : Type*} (d : Dict κ ν) (f : κ → ν → μ) (k : κ) :
    (d.erase k).mapValues f = (d.mapValues f).erase k := by
  unfold mapValues erase filter
  congr 1
  rw [List.filter_map]
  rfl

lemma mem_entries_iff (d : Dict κ ν) {k : κ} {v : ν} : (k, v) ∈ d.entries ↔ d.get? k = some v :=
  (find_eq_some_iff d.nodup).symm

lemma mem_keys_iff (d : Dict κ ν) {k : κ} :
    k ∈ d.entries.map Prod.fst ↔ ∃ v, d.get? k = some v := by
  rw [List.mem_map]
  constructor
  · rintro ⟨⟨k, v⟩, he, rfl⟩
    exact ⟨v, d.mem_entries_iff.mp he⟩
  · rintro ⟨v, hv⟩
    exact ⟨(k, v), d.mem_entries_iff.mpr hv, rfl⟩

/-- A collected dictionary has at each key what was made of the value there. -/
lemma get?_collect_of_get? {ε μ : Type*} {d : Dict κ ν} {f : κ → ν → Except ε μ} {c : Dict κ μ}
    (h : d.collect f = .ok c) {k : κ} {v : ν} (hv : d.get? k = some v) :
    ∃ w, f k v = .ok w ∧ c.get? k = some w := by
  rcases get?_collect h k with ⟨hnone, -⟩ | ⟨v', w, hv', hw, hget⟩
  · rw [hv] at hnone
    cases hnone
  · obtain rfl : v = v' := Option.some.inj (hv.symm.trans hv')
    exact ⟨w, hw, hget⟩

/-- It has the same keys. -/
lemma mem_keys_collect {ε μ : Type*} {d : Dict κ ν} {f : κ → ν → Except ε μ} {c : Dict κ μ}
    (h : d.collect f = .ok c) {k : κ} :
    k ∈ c.entries.map Prod.fst ↔ ∃ v, d.get? k = some v := by
  rw [c.mem_keys_iff]
  constructor
  · rintro ⟨w, hw⟩
    rcases get?_collect h k with ⟨-, hnone⟩ | ⟨v, -, hv, -⟩
    · rw [hw] at hnone
      cases hnone
    · exact ⟨v, hv⟩
  · rintro ⟨v, hv⟩
    obtain ⟨w, -, hw⟩ := get?_collect_of_get? h hv
    exact ⟨w, hw⟩

lemma contains_iff (d : Dict κ ν) (k : κ) : d.contains k = true ↔ ∃ v, d.get? k = some v := by
  rw [contains, Option.isSome_iff_exists]

omit [DecidableEq κ] in
/-- Two dictionaries with the same entries in the same order are equal. -/
lemma ext_entries {d e : Dict κ ν} (h : d.entries = e.entries) : d = e := by
  cases d
  cases e
  congr

/-- A fresh key is appended. -/
lemma entries_set_of_get?_eq_none {d : Dict κ ν} {k : κ} (h : d.get? k = none) (v : ν) :
    (d.set k v).entries = d.entries ++ [(k, v)] := by
  have hassign : ∀ es : List (κ × ν), find es k = none → assign es k v = es ++ [(k, v)] := by
    intro es hes
    induction es with
    | nil => rfl
    | cons e es ih =>
      obtain ⟨k', w⟩ := e
      by_cases hk : k' = k
      · simp [find, hk] at hes
      · simp only [find, if_neg hk] at hes
        simp [assign, hk, ih hes]
  exact hassign d.entries h

/-- Storing what is stored already changes nothing. -/
lemma set_of_get?_eq_some {d : Dict κ ν} {k : κ} {v : ν} (h : d.get? k = some v) :
    d.set k v = d := by
  have hassign : ∀ es : List (κ × ν), find es k = some v → assign es k v = es := by
    intro es hes
    induction es with
    | nil => cases hes
    | cons e es ih =>
      obtain ⟨k', w⟩ := e
      rw [find] at hes
      rw [assign]
      by_cases hk : k' = k
      · rw [if_pos hk] at hes ⊢
        rw [Option.some.inj hes]
      · rw [if_neg hk] at hes ⊢
        rw [ih hes]
  exact ext_entries (hassign d.entries h)

/-- Assigning the entries of a list without repeated keys to a dictionary that has none of them
appends the list. -/
lemma entries_foldl_set {d : Dict κ ν} {es : List (κ × ν)} (hes : (es.map Prod.fst).Nodup)
    (hfresh : ∀ e ∈ es, d.get? e.1 = none) :
    (es.foldl (fun d e => d.set e.1 e.2) d).entries = d.entries ++ es := by
  induction es generalizing d with
  | nil => simp
  | cons e es ih =>
    obtain ⟨k, v⟩ := e
    rw [List.map_cons, List.nodup_cons] at hes
    have hnew : (d.set k v).entries = d.entries ++ [(k, v)] :=
      entries_set_of_get?_eq_none (hfresh (k, v) List.mem_cons_self) v
    have hrest : ∀ e ∈ es, (d.set k v).get? e.1 = none := by
      intro e he
      have hne : e.1 ≠ k := by
        rintro rfl
        exact hes.1 (List.mem_map.mpr ⟨e, he, rfl⟩)
      rw [get?_set_of_ne _ _ hne]
      exact hfresh e (List.mem_cons_of_mem _ he)
    rw [List.foldl_cons, ih hes.2 hrest, hnew, List.append_assoc, List.singleton_append]

/-- A dictionary is rebuilt from its own entries. -/
lemma foldl_set_entries (d : Dict κ ν) :
    d.entries.foldl (fun d e => d.set e.1 e.2) empty = d :=
  ext_entries (entries_foldl_set d.nodup fun _ _ => rfl)

/-! ## Indexing a list -/

/-- `{f(x): x for x in xs}`: of several elements with one key the last one counts. -/
def indexBy (f : ν → κ) (xs : List ν) : Dict κ ν := xs.foldl (fun d x => d.set (f x) x) empty

/-- Assigning related elements of two lists, key by key, keeps two dictionaries related. -/
theorem get?_foldl_of_forall₂ {μ : Type*} {f : ν → κ} {g : μ → κ} {R : ν → μ → Prop}
    (hkey : ∀ x y, R x y → f x = g y) {xs : List ν} {ys : List μ} (h : List.Forall₂ R xs ys)
    {d : Dict κ ν} {e : Dict κ μ}
    (hde : ∀ k y, e.get? k = some y → ∃ x, d.get? k = some x ∧ R x y) {k : κ} {y : μ}
    (hy : (ys.foldl (fun e y => e.set (g y) y) e).get? k = some y) :
    ∃ x, (xs.foldl (fun d x => d.set (f x) x) d).get? k = some x ∧ R x y := by
  induction h generalizing d e with
  | nil => exact hde k y hy
  | @cons x' y' xs ys hxy _ ih =>
    refine ih ?_ hy
    intro k y hy
    rw [get?_set] at hy
    rw [get?_set, hkey x' y' hxy]
    split_ifs at hy ⊢ with hk
    · obtain rfl : y' = y := Option.some.inj hy
      exact ⟨x', rfl, hxy⟩
    · exact hde k y hy

/-- Two lists that are related element by element, with the same keys, are indexed by related
elements. -/
theorem get?_indexBy_of_forall₂ {μ : Type*} {f : ν → κ} {g : μ → κ} {R : ν → μ → Prop}
    (hkey : ∀ x y, R x y → f x = g y) {xs : List ν} {ys : List μ} (h : List.Forall₂ R xs ys)
    {k : κ} {y : μ} (hy : (indexBy g ys).get? k = some y) :
    ∃ x, (indexBy f xs).get? k = some x ∧ R x y := by
  refine get?_foldl_of_forall₂ hkey h ?_ hy
  intro k y hempty
  rw [get?_empty] at hempty
  cases hempty

/-! ## Grouping a list -/

/-- `d.setdefault(k, []).append(v)`. -/
def append (d : Dict κ (List ν)) (k : κ) (v : ν) : Dict κ (List ν) := d.set k (d.getD k [] ++ [v])

/-- The elements of a list collected under their keys, in order; an element without a key is
skipped. -/
def groupBy {β : Type*} (key : β → Option κ) (val : β → ν) (xs : List β) : Dict κ (List ν) :=
  xs.foldl (fun d x => (key x).elim d fun k => d.append k (val x)) empty

lemma getD_append (d : Dict κ (List ν)) (k : κ) (v : ν) (j : κ) :
    (d.append k v).getD j [] = d.getD j [] ++ if j = k then [v] else [] := by
  unfold append getD
  rw [get?_set]
  split_ifs with h
  · rw [Option.getD_some, h]
  · rw [List.append_nil]

/-- The group of a key: the values of the elements with that key, in order.  A key without
elements has no entry. -/
theorem get?_groupBy {β : Type*} (key : β → Option κ) (val : β → ν) (xs : List β) (k : κ) :
    (groupBy key val xs).get? k =
      if (xs.filter fun x => key x = some k) = [] then none
      else some ((xs.filter fun x => key x = some k).map val) := by
  suffices h : ∀ d : Dict κ (List ν),
      let e := xs.foldl (fun d x => (key x).elim d fun k => d.append k (val x)) d
      e.getD k [] = d.getD k [] ++ (xs.filter fun x => key x = some k).map val ∧
        (e.get? k = none ↔ d.get? k = none ∧ (xs.filter fun x => key x = some k) = []) by
    obtain ⟨hvalue, hnone⟩ := h empty
    change (groupBy key val xs).getD k [] = _ at hvalue
    change (groupBy key val xs).get? k = none ↔ _ at hnone
    simp only [get?_empty, true_and, getD, Option.getD_none, List.nil_append] at hnone hvalue
    split_ifs with hempty
    · exact hnone.mpr hempty
    · obtain ⟨vs, hvs⟩ := Option.ne_none_iff_exists'.mp (mt hnone.mp hempty)
      rw [hvs, Option.getD_some] at hvalue
      rw [hvs, hvalue]
  induction xs with
  | nil =>
    intro d
    simp
  | cons x xs ih =>
    intro d
    obtain ⟨hvalue, hnone⟩ := ih ((key x).elim d fun k => d.append k (val x))
    refine ⟨hvalue.trans ?_, hnone.trans ?_⟩
    · cases hkey : key x with
      | none => simp [hkey]
      | some j =>
        by_cases hj : k = j
        · simp [hkey, getD_append, hj]
        · simp [hkey, getD_append, hj, Ne.symm hj]
    · cases hkey : key x with
      | none => simp [hkey]
      | some j =>
        by_cases hj : k = j
        · simp [hkey, append, hj]
        · simp [hkey, append, get?_set, hj, Ne.symm hj]

end Dict

end MiniatureWarehouse
