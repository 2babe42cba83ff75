import MiniatureWarehouse.Framework.Values
import Mathlib.Data.Set.Card

/-!
# Loops that may fail

A loop of the program whose body may raise is a `foldlM` in `Except`.  The rules here say what such
a loop has done when it comes to its end: it keeps an invariant between the elements it has seen
and its state, it collects what its turns collect, and it counts the elements that pass its test.
-/

namespace MiniatureWarehouse

section Loops

variable {σ β ε : Type} {step : σ → β → Except ε σ}

/-- A loop whose body fails for some elements, always alike, fails where one of them occurs. -/
lemma foldlM_guarded {next : σ → β → σ} {bad : β → Bool} {e : ε}
    (h : ∀ s b, step s b = if bad b then .error e else .ok (next s b)) (bs : List β) (s : σ) :
    bs.foldlM step s = if bs.any bad then .error e else .ok (bs.foldl next s) := by
  induction bs generalizing s with
  | nil => rfl
  | cons b bs ih =>
    rw [List.foldlM_cons, h, List.any_cons, List.foldl_cons]
    cases hb : bad b with
    | true => rfl
    | false => exact ih (next s b)

/-- What is kept between the elements a loop has seen and its state holds when it ends. -/
theorem foldlM_history {I : List β → σ → Prop}
    (hstep : ∀ pre b s s', I pre s → step s b = .ok s' → I (pre ++ [b]) s') (pre : List β)
    {bs : List β} {s s' : σ} (hinit : I pre s) (h : bs.foldlM step s = .ok s') :
    I (pre ++ bs) s' := by
  induction bs generalizing pre s with
  | nil =>
    obtain rfl : s = s' := Except.ok.inj h
    rwa [List.append_nil]
  | cons b bs ih =>
    rw [List.foldlM_cons] at h
    obtain ⟨t, ht, hrest⟩ := exceptBind_eq_ok.mp h
    have hrun := ih (pre ++ [b]) (hstep pre b s t hinit ht) hrest
    rwa [List.append_assoc, List.singleton_append] at hrun

/-- A loop collects what its turns collect. -/
theorem mem_of_foldlM {κ : Type} (view : σ → Set κ) (new : β → Set κ)
    (hstep : ∀ s b s', step s b = .ok s' → view s' = view s ∪ new b) {bs : List β} {s s' : σ}
    (h : bs.foldlM step s = .ok s') (k : κ) :
    k ∈ view s' ↔ k ∈ view s ∨ ∃ b ∈ bs, k ∈ new b := by
  let I (pre : List β) (t : σ) : Prop := k ∈ view t ↔ k ∈ view s ∨ ∃ b ∈ pre, k ∈ new b
  have hkept : ∀ pre b t t', I pre t → step t b = .ok t' → I (pre ++ [b]) t' := by
    intro pre b t t' ht hb
    have hmem : k ∈ view t' ↔ k ∈ view t ∨ k ∈ new b := by
      rw [hstep t b t' hb, Set.mem_union]
    have hpre : (∃ c ∈ pre ++ [b], k ∈ new c) ↔ (∃ c ∈ pre, k ∈ new c) ∨ k ∈ new b := by
      simp [or_and_right, exists_or]
    exact hmem.trans ((or_congr ht Iff.rfl).trans (or_assoc.trans (or_congr Iff.rfl hpre.symm)))
  have hinit : I [] s := by simp [I]
  exact foldlM_history hkept [] hinit h

/-- The same for what a loop collects in a finite set. -/
theorem coe_of_foldlM {κ : Type} (view : σ → Finset κ) (new : β → Set κ)
    (hstep : ∀ s b s', step s b = .ok s' → (view s' : Set κ) = (view s : Set κ) ∪ new b)
    {bs : List β} {s s' : σ} (h : bs.foldlM step s = .ok s') :
    (view s' : Set κ) = (view s : Set κ) ∪ {k | ∃ b ∈ bs, k ∈ new b} :=
  Set.ext fun k => mem_of_foldlM (fun s => (view s : Set κ)) new hstep h k

/-- `sum(1 for b in bs if p(b))`, with a test that may fail. -/
def countM (p : β → Except ε Bool) (bs : List β) : Except ε ℕ :=
  bs.foldlM (fun n b => (p b).map fun yes => if yes then n + 1 else n) 0

/-- A test that may fail, failure counted as no. -/
def passes (p : β → Except ε Bool) (b : β) : Bool := (p b).toOption.getD false

lemma passes_iff {p : β → Except ε Bool} {b : β} : passes p b = true ↔ p b = .ok true := by
  unfold passes
  cases p b with
  | error e => simp [Except.toOption]
  | ok yes => simp [Except.toOption]

/-- A count that comes to its end is the number of the elements that pass. -/
theorem countM_eq_ok {p : β → Except ε Bool} {bs : List β} {n : ℕ} (h : countM p bs = .ok n) :
    n = bs.countP (passes p) := by
  let I (pre : List β) (m : ℕ) : Prop := m = pre.countP (passes p)
  have hkept : ∀ pre b m m', I pre m →
      (p b).map (fun yes => if yes then m + 1 else m) = .ok m' → I (pre ++ [b]) m' := by
    intro pre b m m' hm hb
    obtain ⟨yes, hp, rfl⟩ := exceptMap_eq_ok.mp hb
    have hyes : passes p b = yes := by simp [passes, hp, Except.toOption]
    have hcount : (pre ++ [b]).countP (passes p) = m + if yes then 1 else 0 := by
      rw [List.countP_append, List.countP_singleton, hyes, ← show m = _ from hm]
    show _ = _
    rw [hcount]
    cases yes <;> simp
  exact foldlM_history hkept [] (show I [] 0 from rfl) h

end Loops

/-- The values a fallible function has on a list are at most as many as its elements. -/
lemma ncard_images_le {β κ : Type} (f : β → Option κ) (bs : List β) :
    {k | ∃ b ∈ bs, f b = some k}.Finite ∧ {k | ∃ b ∈ bs, f b = some k}.ncard ≤ bs.length := by
  classical
  have hcoe : {k | ∃ b ∈ bs, f b = some k} = ((bs.filterMap f).toFinset : Set κ) := by
    ext k
    simp
  have hcard : (bs.filterMap f).toFinset.card ≤ (bs.filterMap f).length := List.toFinset_card_le _
  have hlength : (bs.filterMap f).length ≤ bs.length := List.length_filterMap_le f bs
  rw [hcoe, Set.ncard_coe_finset]
  exact ⟨Finset.finite_toSet _, hcard.trans hlength⟩

end MiniatureWarehouse
