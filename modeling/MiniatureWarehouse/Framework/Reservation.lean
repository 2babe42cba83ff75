import Mathlib.Logic.Function.Basic

/-!
# Reservations and their holders

Agents move towards resources they have reserved.  One table says what each agent has reserved,
another what it is really moving towards, and the two are kept by different parties: a
reservation is granted before the movement starts, and the movement may end without the table of
reservations being told.

`Agrees moving reserved` is what makes the two tables one protocol: whatever is moving towards a
resource holds the reservation of it, and no two agents move towards the same one.  The lemmas
say which changes keep it.  The one that does not is to replace the reservation of an agent that
keeps moving, and every lemma asks for its absence.
-/

namespace MiniatureWarehouse

variable {ρ δ : Type*}

/-- Every movement is covered by its reservation, and no two movements have the same target. -/
structure Agrees (moving reserved : ρ → Option δ) : Prop where
  covered : ∀ r d, moving r = some d → reserved r = some d
  exclusive : ∀ r r' d, moving r = some d → moving r' = some d → r = r'

namespace Agrees

variable {moving moving' reserved reserved' : ρ → Option δ}

theorem idle (reserved : ρ → Option δ) : Agrees (fun _ => none) reserved where
  covered _ _ h := nomatch h
  exclusive _ _ _ h := nomatch h

/-- Movements may end and reservations may change, as long as what still moves keeps its own. -/
theorem mono (h : Agrees moving reserved)
    (hmoving : ∀ r d, moving' r = some d → moving r = some d)
    (hreserved : ∀ r d, moving' r = some d → reserved r = some d → reserved' r = some d) :
    Agrees moving' reserved' where
  covered r d hr := hreserved r d hr (h.covered r d (hmoving r d hr))
  exclusive r r' d hr hr' := h.exclusive r r' d (hmoving r d hr) (hmoving r' d hr')

/-- A movement may start towards a resource nobody else has reserved. -/
theorem start (h : Agrees moving reserved) {r : ρ} {d : δ}
    (hfree : ∀ r', r' ≠ r → reserved r' ≠ some d)
    (hself : reserved' r = some d)
    (hother : ∀ r', r' ≠ r → reserved' r' = reserved r')
    (hmoving : ∀ r' d', r' ≠ r → moving' r' = some d' → moving r' = some d')
    (honly : ∀ d', moving' r = some d' → d' = d) : Agrees moving' reserved' where
  covered r' d' hr' := by
    by_cases hr : r' = r
    · subst hr
      rw [honly d' hr']
      exact hself
    · rw [hother r' hr]
      exact h.covered r' d' (hmoving r' d' hr hr')
  exclusive r₁ r₂ d' h₁ h₂ := by
    -- another agent moving there would hold the reservation that was free
    have hnew : ∀ r', r' ≠ r → moving' r' ≠ some d := by
      intro r' hr hm
      exact hfree r' hr (h.covered r' d (hmoving r' d hr hm))
    by_cases hr₁ : r₁ = r
    · by_contra hne
      have hr₂ : r₂ ≠ r := fun hr₂ => hne (hr₁.trans hr₂.symm)
      rw [hr₁] at h₁
      rw [honly d' h₁] at h₂
      exact hnew r₂ hr₂ h₂
    · by_cases hr₂ : r₂ = r
      · rw [hr₂] at h₂
        rw [honly d' h₂] at h₁
        exact absurd h₁ (hnew r₁ hr₁)
      · exact h.exclusive r₁ r₂ d' (hmoving r₁ d' hr₁ h₁) (hmoving r₂ d' hr₂ h₂)

end Agrees

end MiniatureWarehouse
