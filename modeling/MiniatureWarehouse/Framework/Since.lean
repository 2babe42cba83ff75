import Mathlib.Data.List.Basic

/-!
# What has held since an event

A safety argument about a run often says that something was asked for and has not been undone since.
`Since K Q past` is that statement about the events so far: one of them was a `Q`, and every event
after it was a `K`.  Both may look at what came before the event they judge.

The two rules `Since.now` and `Since.keep` follow the run as it grows, so that an invariant can carry
a `Since` without taking the past apart.
-/

namespace MiniatureWarehouse

variable {ε : Type*} {K Q : List ε → ε → Prop}

/-- Every event of `post` is a `K`, given that `past` came before. -/
def KeptAfter (K : List ε → ε → Prop) (past post : List ε) : Prop :=
  ∀ p e q, post = p ++ e :: q → K (past ++ p) e

/-- One of the events was a `Q`, and every event after it was a `K`. -/
def Since (K Q : List ε → ε → Prop) (past : List ε) : Prop :=
  ∃ pre e post, past = pre ++ e :: post ∧ Q pre e ∧ KeptAfter K (pre ++ [e]) post

/-- The last event of a run that is split at an event: it is that one, or it comes after it. -/
lemma concat_eq_append_cons {past pre post : List ε} {e x : ε} (h : past ++ [e] = pre ++ x :: post) :
    (past = pre ∧ e = x ∧ post = []) ∨ ∃ post', post = post' ++ [e] ∧ past = pre ++ x :: post' := by
  rcases List.eq_nil_or_concat post with rfl | ⟨post', y, rfl⟩
  · obtain ⟨hpast, he⟩ := List.append_inj' h rfl
    exact .inl ⟨hpast, List.singleton_inj.mp he, rfl⟩
  · have h' : past ++ [e] = (pre ++ x :: post') ++ [y] := by simpa using h
    obtain ⟨hpast, he⟩ := List.append_inj' h' rfl
    obtain rfl := List.singleton_inj.mp he
    exact .inr ⟨post', by simp, hpast⟩

lemma keptAfter_nil (past : List ε) : KeptAfter K past [] := by
  intro p e q h
  simp at h

lemma keptAfter_concat {past post : List ε} {e : ε} :
    KeptAfter K past (post ++ [e]) ↔ KeptAfter K past post ∧ K (past ++ post) e := by
  constructor
  · intro h
    refine ⟨fun p x q hpost => h p x (q ++ [e]) ?_, h post e [] rfl⟩
    rw [hpost, List.append_assoc, List.cons_append]
  · rintro ⟨hpost, hlast⟩ p x q hsplit
    rcases concat_eq_append_cons hsplit with ⟨rfl, rfl, -⟩ | ⟨q', -, hsplit'⟩
    · exact hlast
    · exact hpost p x q' hsplit'

/-- It has just happened. -/
lemma Since.now {past : List ε} {e : ε} (h : Q past e) : Since K Q (past ++ [e]) :=
  ⟨past, e, [], rfl, h, keptAfter_nil _⟩

/-- It goes on holding. -/
lemma Since.keep {past : List ε} {e : ε} (h : Since K Q past) (he : K past e) :
    Since K Q (past ++ [e]) := by
  obtain ⟨pre, x, post, rfl, hq, hkept⟩ := h
  refine ⟨pre, x, post ++ [e], by simp, hq, keptAfter_concat.mpr ⟨hkept, ?_⟩⟩
  rw [List.append_assoc]
  exact he

end MiniatureWarehouse
