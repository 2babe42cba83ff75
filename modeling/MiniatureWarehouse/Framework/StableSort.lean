import Mathlib.Data.List.Sort

/-!
# Stable sorting by a key

`sorted(xs, key=f)` keeps the elements with one key in the order they came in.  A list that is
sorted by a key is determined by its groups of equal keys, so two inputs sort to the same list
exactly when they agree, key by key, on the order of the elements with that key.
-/

namespace MiniatureWarehouse

section

variable {β κ : Type*} [LinearOrder κ] (key : β → κ)

/-- `sorted(xs, key=key)`. -/
def sortBy (xs : List β) : List β := xs.insertionSort fun a b => key a ≤ key b

/-- The elements with one key, in order. -/
def withKey (k : κ) (xs : List β) : List β := xs.filter fun x => key x = k

lemma perm_sortBy (xs : List β) : (sortBy key xs).Perm xs := List.perm_insertionSort _ xs

lemma pairwise_sortBy (xs : List β) : (sortBy key xs).Pairwise fun a b => key a ≤ key b := by
  have htotal : Std.Total fun a b : β => key a ≤ key b := ⟨fun a b => le_total (key a) (key b)⟩
  have htrans : IsTrans β fun a b => key a ≤ key b := ⟨fun _ _ _ => le_trans⟩
  exact List.pairwise_insertionSort _ xs

/-- Inserting an element in front of its equals. -/
lemma withKey_orderedInsert (k : κ) (x : β) (xs : List β) :
    withKey key k (xs.orderedInsert (fun a b => key a ≤ key b) x) = withKey key k (x :: xs) := by
  induction xs with
  | nil => rfl
  | cons y ys ih =>
    rw [List.orderedInsert_cons]
    split_ifs with hle
    · rfl
    · have hne : ¬ (key x = k ∧ key y = k) := by
        rintro ⟨hx, hy⟩
        exact hle (hx.trans hy.symm).le
      unfold withKey at ih ⊢
      rw [List.filter_cons, ih]
      by_cases hx : key x = k
      · have hy : key y ≠ k := fun hy => hne ⟨hx, hy⟩
        simp [hx, hy]
      · simp [hx, List.filter_cons]

/-- **Stability**: sorting keeps the order of the elements with one key. -/
theorem withKey_sortBy (k : κ) (xs : List β) :
    withKey key k (sortBy key xs) = withKey key k xs := by
  induction xs with
  | nil => rfl
  | cons x xs ih =>
    have hinsert := withKey_orderedInsert key k x (sortBy key xs)
    unfold sortBy at hinsert ⊢
    rw [List.insertionSort_cons, hinsert]
    unfold withKey sortBy at *
    rw [List.filter_cons, List.filter_cons, ih]

/-- A sorted list is determined by its groups of equal keys. -/
theorem eq_of_withKey {xs ys : List β} (hxs : xs.Pairwise fun a b => key a ≤ key b)
    (hys : ys.Pairwise fun a b => key a ≤ key b)
    (h : ∀ k, withKey key k xs = withKey key k ys) : xs = ys := by
  -- the first element of a sorted list has the least key of all, so it heads its own group
  have hhead : ∀ {x : β} {xs ys : List β}, (x :: xs).Pairwise (fun a b => key a ≤ key b) →
      ys.Pairwise (fun a b => key a ≤ key b) →
      (∀ k, withKey key k (x :: xs) = withKey key k ys) → ∃ zs, ys = x :: zs := by
    intro x xs ys hx hy heq
    have hgroup := heq (key x)
    cases ys with
    | nil => simp [withKey] at hgroup
    | cons y ys =>
      have hle : key y ≤ key x := by
        have hmem : x ∈ withKey key (key x) (y :: ys) := by
          rw [← hgroup]
          simp [withKey]
        rcases List.mem_cons.mp (List.mem_of_mem_filter hmem) with rfl | hmem
        · exact le_rfl
        · exact List.rel_of_pairwise_cons hy hmem
      have hge : key x ≤ key y := by
        have hmem : y ∈ withKey key (key y) (x :: xs) := by
          rw [heq]
          simp [withKey]
        rcases List.mem_cons.mp (List.mem_of_mem_filter hmem) with rfl | hmem
        · exact le_rfl
        · exact List.rel_of_pairwise_cons hx hmem
      have hkey : key y = key x := le_antisymm hle hge
      have hfirst : x = y := by
        have hcons : x :: withKey key (key x) xs = y :: withKey key (key x) ys := by
          simpa [withKey, hkey] using hgroup
        exact (List.cons.inj hcons).1
      exact ⟨ys, by rw [hfirst]⟩
  induction xs generalizing ys with
  | nil =>
    cases ys with
    | nil => rfl
    | cons y ys =>
      have hgroup := h (key y)
      simp [withKey] at hgroup
  | cons x xs ih =>
    obtain ⟨zs, rfl⟩ := hhead hxs hys h
    congr 1
    refine ih hxs.of_cons hys.of_cons ?_
    intro k
    have hgroup := h k
    unfold withKey at hgroup ⊢
    rw [List.filter_cons, List.filter_cons] at hgroup
    split_ifs at hgroup with hk
    · exact (List.cons.inj hgroup).2
    · exact hgroup

/-- Two lists sort to the same list exactly when they order the elements with one key alike. -/
theorem sortBy_eq_sortBy_iff {xs ys : List β} :
    sortBy key xs = sortBy key ys ↔ ∀ k, withKey key k xs = withKey key k ys := by
  constructor
  · intro h k
    rw [← withKey_sortBy, h, withKey_sortBy]
  · intro h
    refine eq_of_withKey key (pairwise_sortBy key xs) (pairwise_sortBy key ys) ?_
    intro k
    rw [withKey_sortBy, withKey_sortBy, h k]

end

section

variable {β : Type*}

/-- A list of at most one element has no other order. -/
lemma eq_of_perm_of_length_le_one {xs ys : List β} (hperm : xs.Perm ys) (hone : xs.length ≤ 1) :
    xs = ys := by
  cases xs with
  | nil => exact (List.nil_perm.mp hperm).symm
  | cons x xs =>
    obtain rfl : xs = [] := by
      rw [List.length_cons] at hone
      exact List.eq_nil_of_length_eq_zero (by omega)
    exact List.singleton_perm.mp hperm

/-- Without repeated keys every group has at most one element. -/
lemma length_filter_key_le_one {κ : Type*} [DecidableEq κ] {key : β → κ} {xs : List β}
    (h : (xs.map key).Nodup) (k : κ) : (xs.filter fun x => key x = k).length ≤ 1 := by
  have hcount := List.nodup_iff_count_le_one.mp h k
  rw [List.count_eq_countP, List.countP_map, List.countP_eq_length_filter] at hcount
  refine le_trans (le_of_eq ?_) hcount
  congr 1

end

end MiniatureWarehouse
