import MiniatureWarehouse.Framework.Runs
import MiniatureWarehouse.Framework.Values
import Mathlib.Algebra.Order.Field.Rat

/-!
# Crossing approvals

A crossing approval is a token an operator issues for one crossing.  The registry consumes a
token once: it remembers the identifier of every consumed token, but only until the deadline the
token carried, because an expired token is refused by its own deadline anyway.  That reasoning
takes for granted that an identifier always comes with the same deadline.

The registry is compared with one that never forgets (`Ledger`): under a wall clock that does
not go back, both accept the same presentations.  On the second registry it is then a matter of
the presentations alone whether an identifier is accepted twice.
-/

namespace MiniatureWarehouse

namespace CrossingApproval

/-- `CrossingApprovalToken`, as far as the registry reads it. -/
structure CrossingApprovalToken (α : Type*) where
  tokenId : String
  crossingId : String
  routeVersion : String
  datumVersion : String
  expiresAtS : PyVal α

/-- One call of `consume`. -/
structure Presentation (α : Type*) where
  token : Option (CrossingApprovalToken α)
  nowWallS : PyVal α
  expectedCrossingId : String
  expectedRouteVersion : String
  expectedDatumVersion : String

section Registry

variable {α : Type*} [Field α] [LinearOrder α] [IsStrictOrderedRing α] (F : FloatFormat α)

/-- `_is_finite_number`, with the finite float it vouches for. -/
def finiteNumber? : PyVal α → Except PyErr (Option α)
  | .bool _ => .ok none
  | .int i => (PyVal.toFloat F (.int i)).map fun
    | .fin x => some x
    | _ => none
  | .float (.fin x) => .ok (some x)
  | _ => .ok none

/-- `_evict_expired`: forget the identifiers whose deadline has passed. -/
def evictExpired (used : Dict String α) (now : α) : Dict String α :=
  used.filter fun _ deadline => !decide (deadline < now)

/-- The bindings of a token to the crossing at hand. -/
def bound (token : CrossingApprovalToken α) (p : Presentation α) : Bool :=
  token.crossingId == p.expectedCrossingId && token.routeVersion == p.expectedRouteVersion &&
    token.datumVersion == p.expectedDatumVersion

/-- `consume`: the remembered identifiers after one presentation, and whether it was accepted. -/
def consume (used : Dict String α) (p : Presentation α) : Dict String α × Except PyErr Bool :=
  match p.token with
  | none => (used, .ok false)
  | some token =>
    match finiteNumber? F p.nowWallS with
    | .error e => (used, .error e)
    | .ok none => (used, .ok false)
    | .ok (some now) =>
      match finiteNumber? F token.expiresAtS with
      | .error e => (used, .error e)
      | .ok none => (used, .ok false)
      | .ok (some expiresAt) =>
        if token.tokenId = "" then (used, .ok false)
        else
          let used := evictExpired used now
          if used.contains token.tokenId then (used, .ok false)
          else if !bound token p then (used, .ok false)
          else if expiresAt < now then (used, .ok false)
          else (used.set token.tokenId expiresAt, .ok true)

/-- The registry as a machine; an accepted presentation puts out the identifier of its token. -/
def registry : Machine (Dict String α) (Presentation α) (Option String) where
  step used p :=
    let (used', result) := consume F used p
    (used', match result, p.token with
      | .ok true, some token => some token.tokenId
      | _, _ => none)

/-! ## Valid presentations -/

/-- A presentation that passes every check but the one-shot one. -/
structure Approval (α : Type*) where
  tokenId : String
  now : α
  expiresAt : α
  deriving DecidableEq

/-- The time of a presentation, if its clock reading is usable. -/
def Presentation.time? (p : Presentation α) : Option α :=
  match finiteNumber? F p.nowWallS with
  | .ok now => now
  | .error _ => none

/-- The approval a presentation amounts to, if all its own checks pass. -/
def Presentation.approval? (p : Presentation α) : Option (Approval α) :=
  match p.token, finiteNumber? F p.nowWallS with
  | some token, .ok (some now) =>
    match finiteNumber? F token.expiresAtS with
    | .ok (some expiresAt) =>
      if token.tokenId ≠ "" ∧ bound token p = true ∧ now ≤ expiresAt then
        some ⟨token.tokenId, now, expiresAt⟩
      else none
    | _ => none
  | _, _ => none

/-! ## The registry that never forgets -/

/-- The deadline each identifier was last accepted with. -/
abbrev Ledger (α : Type*) := String → Option α

/-- The identifier is remembered with a deadline that has not passed. -/
def Blocks (d : Option α) (now : α) : Prop := ∃ deadline, d = some deadline ∧ now ≤ deadline

instance (d : Option α) (now : α) : Decidable (Blocks d now) :=
  match d with
  | none => .isFalse fun ⟨_, h, _⟩ => nomatch h
  | some deadline => decidable_of_iff (now ≤ deadline) (by simp [Blocks])

/-- A registry that remembers every identifier for ever. -/
def ledger : Machine (Ledger α) (Approval α) (Option String) where
  step l a :=
    if Blocks (l a.tokenId) a.now then (l, none)
    else (Function.update l a.tokenId (some a.expiresAt), some a.tokenId)

omit [Field α] [IsStrictOrderedRing α] in
lemma ledger_step_of_blocks {l : Ledger α} {a : Approval α} (h : Blocks (l a.tokenId) a.now) :
    ledger.step l a = (l, none) := if_pos h

omit [Field α] [IsStrictOrderedRing α] in
lemma ledger_step_of_free {l : Ledger α} {a : Approval α} (h : ¬ Blocks (l a.tokenId) a.now) :
    ledger.step l a = (Function.update l a.tokenId (some a.expiresAt), some a.tokenId) := if_neg h

/-! ## The refinement -/

section Refinement

omit [Field α] [IsStrictOrderedRing α]

lemma get?_evictExpired (used : Dict String α) (now : α) (id : String) :
    (evictExpired used now).get? id = (used.get? id).filter fun d => !decide (d < now) := by
  rw [evictExpired, Dict.get?_filter]

/-- Eviction forgets nothing that still blocks, now or later. -/
lemma blocks_evictExpired (used : Dict String α) {now t : α} (h : now ≤ t) (id : String) :
    Blocks ((evictExpired used now).get? id) t ↔ Blocks (used.get? id) t := by
  rw [get?_evictExpired]
  cases hd : used.get? id with
  | none => simp
  | some d =>
    by_cases hlt : d < now
    · have hgone : ¬ t ≤ d := not_le.mpr (hlt.trans_le h)
      simp [Blocks, Option.filter, hlt, hgone]
    · simp [Option.filter, hlt]

/-- After an eviction an identifier is remembered exactly if it blocks. -/
lemma contains_evictExpired (used : Dict String α) (now : α) (id : String) :
    (evictExpired used now).contains id = true ↔ Blocks (used.get? id) now := by
  rw [Dict.contains, get?_evictExpired]
  cases used.get? id with
  | none => simp [Blocks]
  | some d => by_cases hlt : d < now <;> simp [Blocks, Option.filter, hlt, not_lt.mp, not_le.mpr]

end Refinement

/-- What one presentation does to the registry. -/
lemma registry_step_cases (used : Dict String α) (p : Presentation α) :
    (p.approval? F = none ∧ ((registry F).step used p).2 = none ∧
        (((registry F).step used p).1 = used ∨
          ∃ now, p.time? F = some now ∧ ((registry F).step used p).1 = evictExpired used now)) ∨
      ∃ a, p.approval? F = some a ∧ p.time? F = some a.now ∧
        (registry F).step used p =
          if Blocks (used.get? a.tokenId) a.now then (evictExpired used a.now, none)
          else ((evictExpired used a.now).set a.tokenId a.expiresAt, some a.tokenId) := by
  simp only [registry, consume, Presentation.approval?, Presentation.time?]
  cases ht : p.token with
  | none => simp
  | some token =>
    rcases hn : finiteNumber? F p.nowWallS with e | _ | now
    · simp
    · simp
    rcases hx : finiteNumber? F token.expiresAtS with e | _ | expiresAt
    · simp [hx]
    · simp [hx]
    by_cases hid : token.tokenId = ""
    · simp [hx, hid]
    by_cases hvalid : bound token p = true ∧ now ≤ expiresAt
    · -- every check of its own passes: the remembered identifiers decide
      refine .inr ⟨⟨token.tokenId, now, expiresAt⟩, by simp [hx, hid, hvalid], rfl, ?_⟩
      have hcontains := contains_evictExpired used now token.tokenId
      by_cases hb : Blocks (used.get? token.tokenId) now
      · simp [hx, hid, hcontains.mpr hb, hb]
      · have hfree : (evictExpired used now).contains token.tokenId = false := by
          rw [← Bool.not_eq_true, hcontains]
          exact hb
        simp [hx, hid, hfree, hb, hvalid.1, not_lt.mpr hvalid.2]
    · -- a binding or the deadline refuses it, after the eviction
      have hlate : bound token p = true → expiresAt < now := fun hb =>
        not_le.mp fun hle => hvalid ⟨hb, hle⟩
      refine .inl ⟨by simp [hx, hid, hvalid], ?_, .inr ⟨now, rfl, ?_⟩⟩
      · cases (evictExpired used now).contains token.tokenId <;> cases hb : bound token p <;>
          simp [hx, hid, hb, hlate]
      · cases (evictExpired used now).contains token.tokenId <;> cases hb : bound token p <;>
          simp [hx, hid, hb, hlate]

/-- The two registries block the same identifiers from the time `now` on. -/
def Agree (used : Dict String α) (l : Ledger α) (now : α) : Prop :=
  ∀ id t, now ≤ t → (Blocks (used.get? id) t ↔ Blocks (l id) t)

variable {F}

omit [IsStrictOrderedRing α] [Field α] in
lemma Agree.evict {used : Dict String α} {l : Ledger α} {now now' : α} (h : Agree used l now)
    (hle : now ≤ now') : Agree (evictExpired used now') l now' := by
  intro id t ht
  rw [blocks_evictExpired used ht]
  exact h id t (hle.trans ht)

/-- Under a clock that does not go back the registry accepts what the ledger accepts. -/
lemma emitted_eq_ledger {used : Dict String α} {l : Ledger α} {now : α} {ps : List (Presentation α)}
    (h : Agree used l now) (hclock : (ps.filterMap (·.time? F)).Pairwise (· ≤ ·))
    (hnow : ∀ t ∈ ps.filterMap (·.time? F), now ≤ t) :
    (registry F).emitted used ps = ledger.emitted l (ps.filterMap (·.approval? F)) := by
  induction ps generalizing used l now with
  | nil => rfl
  | cons p ps ih =>
    rw [Machine.emitted_cons]
    rcases registry_step_cases F used p with ⟨happ, hout, hstate⟩ | ⟨a, happ, htime, hstep⟩
    · rw [List.filterMap_cons_none happ, hout, Option.toList_none, List.nil_append]
      rcases hstate with hsame | ⟨t, ht, hevict⟩
      · rw [hsame]
        cases ht : p.time? F with
        | none =>
          rw [List.filterMap_cons_none ht] at hclock hnow
          exact ih h hclock hnow
        | some t =>
          rw [List.filterMap_cons_some ht] at hclock hnow
          exact ih h (List.pairwise_cons.mp hclock).2 fun t' ht' => hnow t' (.tail _ ht')
      · rw [List.filterMap_cons_some ht] at hclock hnow
        rw [hevict]
        have hle : now ≤ t := hnow t (.head _)
        exact ih (h.evict hle) (List.pairwise_cons.mp hclock).2 (List.pairwise_cons.mp hclock).1
    · rw [List.filterMap_cons_some htime] at hclock hnow
      obtain ⟨hlater, hclock'⟩ := List.pairwise_cons.mp hclock
      have hle : now ≤ a.now := hnow a.now (.head _)
      rw [List.filterMap_cons_some happ, Machine.emitted_cons, hstep]
      have hiff : Blocks (used.get? a.tokenId) a.now ↔ Blocks (l a.tokenId) a.now := h _ _ hle
      by_cases hb : Blocks (l a.tokenId) a.now
      · rw [ledger_step_of_blocks hb, if_pos (hiff.mpr hb), Option.toList_none, List.nil_append]
        exact ih (h.evict hle) hclock' hlater
      · rw [ledger_step_of_free hb, if_neg (hiff.not.mpr hb)]
        congr 1
        refine ih (fun id t ht => ?_) hclock' hlater
        -- both registries now remember this identifier with the same deadline
        change Blocks _ t ↔ Blocks (Function.update l a.tokenId (some a.expiresAt) id) t
        rw [Dict.get?_set, Function.update_apply]
        split_ifs
        · rfl
        · exact h.evict hle id t ht

/-! ## Approvals that come twice -/

/-- Every approval comes no later than the deadline of the first one of its identifier; `past`
holds the approvals already presented. -/
def RepeatsInTime (past : List (Approval α)) : List (Approval α) → Prop
  | [] => True
  | a :: as =>
    (∀ first, past.find? (·.tokenId == a.tokenId) = some first → a.now ≤ first.expiresAt) ∧
      RepeatsInTime (past ++ [a]) as

/-- The deadlines of the first approval of each identifier. -/
def firstDeadlines (past : List (Approval α)) : Ledger α :=
  fun id => (past.find? (·.tokenId == id)).map Approval.expiresAt

omit [Field α] [LinearOrder α] [IsStrictOrderedRing α] in
lemma firstDeadlines_concat (past : List (Approval α)) (a : Approval α) :
    firstDeadlines (past ++ [a]) =
      if firstDeadlines past a.tokenId = none then
        Function.update (firstDeadlines past) a.tokenId (some a.expiresAt)
      else firstDeadlines past := by
  funext id
  unfold firstDeadlines
  rw [List.find?_append]
  by_cases hid : id = a.tokenId
  · subst hid
    cases hfind : past.find? (·.tokenId == a.tokenId) <;> simp [hfind]
  · have hne : (a.tokenId == id) = false := by simpa using Ne.symm hid
    split_ifs <;> simp [hne, hid]

omit [Field α] [IsStrictOrderedRing α] in
/-- On the ledger an identifier is accepted once exactly if its repeats come in time. -/
lemma ledger_nodup_iff (past as : List (Approval α)) :
    ((ledger.emitted (firstDeadlines past) as).Nodup ∧
        ∀ id ∈ ledger.emitted (firstDeadlines past) as, firstDeadlines past id = none) ↔
      RepeatsInTime past as := by
  induction as generalizing past with
  | nil => simp [RepeatsInTime]
  | cons a as ih =>
    rw [Machine.emitted_cons, RepeatsInTime, ← ih, firstDeadlines_concat]
    cases hfirst : past.find? (·.tokenId == a.tokenId) with
    | none =>
      have hnone : firstDeadlines past a.tokenId = none := by simp [firstDeadlines, hfirst]
      have hfree : ¬ Blocks (firstDeadlines past a.tokenId) a.now := by simp [hnone, Blocks]
      rw [ledger_step_of_free hfree, if_pos hnone]
      generalize hl : Function.update (firstDeadlines past) a.tokenId (some a.expiresAt) = l
      have hself : l a.tokenId ≠ none := by simp [← hl]
      have hother : ∀ id, id ≠ a.tokenId → l id = firstDeadlines past id := by
        intro id hid
        rw [← hl, Function.update_of_ne hid]
      simp only [Option.toList_some, List.singleton_append, List.nodup_cons, List.forall_mem_cons,
        hnone, true_and, reduceCtorEq, false_implies, implies_true]
      constructor
      · rintro ⟨⟨hnot, hnodup⟩, hall⟩
        refine ⟨hnodup, fun id hid => ?_⟩
        rw [hother id (fun heq => hnot (heq ▸ hid))]
        exact hall id hid
      · rintro ⟨hnodup, hall⟩
        refine ⟨⟨fun hmem => hself (hall _ hmem), hnodup⟩, fun id hid => ?_⟩
        rw [← hother id (fun heq => hself (heq ▸ hall id hid))]
        exact hall id hid
    | some first =>
      have hsome : firstDeadlines past a.tokenId = some first.expiresAt := by
        simp [firstDeadlines, hfirst]
      rw [if_neg (by simp [hsome])]
      by_cases hle : a.now ≤ first.expiresAt
      · rw [ledger_step_of_blocks ⟨_, hsome, hle⟩]
        simp [hle]
      · have hfree : ¬ Blocks (firstDeadlines past a.tokenId) a.now := by
          simp [hsome, Blocks, hle]
        rw [ledger_step_of_free hfree]
        refine iff_of_false (fun h => ?_) fun h => hle (h.1 first rfl)
        have := h.2 a.tokenId (by simp)
        simp [hsome] at this

variable (F) in
/-- **When a crossing approval is single use.**  For every sequence of presentations under a wall
clock that does not go back, an empty registry accepts each token identifier at most once if and
only if every presentation that passes its own checks comes no later than the deadline of the
first such presentation of its identifier. -/
theorem single_use_iff (ps : List (Presentation α))
    (hclock : (ps.filterMap (·.time? F)).Pairwise (· ≤ ·)) :
    ((registry F).emitted .empty ps).Nodup ↔ RepeatsInTime [] (ps.filterMap (·.approval? F)) := by
  obtain ⟨start, hstart⟩ : ∃ start, ∀ t ∈ ps.filterMap (·.time? F), start ≤ t := by
    cases htimes : ps.filterMap (·.time? F) with
    | nil => exact ⟨0, by simp⟩
    | cons t ts =>
      rw [htimes, List.pairwise_cons] at hclock
      exact ⟨t, by simpa using hclock.1⟩
  have hempty : Agree (Dict.empty : Dict String α) (firstDeadlines []) start := by
    intro id t _
    simp [Blocks, firstDeadlines]
  rw [emitted_eq_ledger hempty hclock hstart, ← ledger_nodup_iff]
  have hfirst : ∀ id, firstDeadlines ([] : List (Approval α)) id = none := fun _ => rfl
  simp [hfirst]

end Registry

/-! ## A token identifier issued twice -/

/-- A token of this deadline, for the crossing at hand. -/
def reissued (expiresAt : ℚ) : CrossingApprovalToken ℚ :=
  ⟨"t1", "c1", "r1", "d1", .float (.fin expiresAt)⟩

/-- The token of this deadline, presented at `now`. -/
def presented (expiresAt now : ℚ) : Presentation ℚ :=
  ⟨some (reissued expiresAt), .float (.fin now), "c1", "r1", "d1"⟩

/-- **An identifier reissued with a later deadline is accepted twice.** -/
theorem reissued_token_accepted_twice :
    (registry (.exact ℚ)).emitted .empty [presented 10 5, presented 20 15] = ["t1", "t1"] := by
  decide +kernel

/-- The result at a token presented twice within its deadline. -/
theorem single_use_iff_repeated :
    ((registry (.exact ℚ)).emitted .empty [presented 10 5, presented 10 6]).Nodup := by
  refine (single_use_iff (.exact ℚ) [presented 10 5, presented 10 6] (by decide +kernel)).mpr ?_
  have happ : [presented 10 5, presented 10 6].filterMap (·.approval? (.exact ℚ)) =
      [⟨"t1", 5, 10⟩, ⟨"t1", 6, 10⟩] := by decide +kernel
  rw [happ]
  refine ⟨by simp, ?_, trivial⟩
  rintro first ⟨⟩
  norm_num

end CrossingApproval

end MiniatureWarehouse
