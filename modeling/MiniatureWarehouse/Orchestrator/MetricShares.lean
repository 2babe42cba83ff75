import MiniatureWarehouse.Orchestrator.ConversationMetrics

/-!
# Which conversation metrics are shares

Five of the metrics are read as proportions.  The deadlock and the contract rates are: their
numerators count a part of what their denominators count.  The other two divide counts of
different collections.  The episodes closed locally are taken from the rows that close an episode,
whether or not a row started it, and the overrides from the rows that override, whether or not a
row reviewed the proposal.

So each of the two is a share as long as its strays, the members of the numerator that the
denominator does not know, are no more than the members of the denominator that the numerator
leaves out (`shares_in_unit_iff`).
-/

namespace MiniatureWarehouse

namespace ConversationMetrics

open OfflineJoin (Row field)

/-! ## What the rows say -/

section Collections

variable {α : Type} [Field α] [LinearOrder α] [IsStrictOrderedRing α]
  (pyStr : PyVal α → Except PyErr String) (F : FloatFormat α)

omit [Field α] [LinearOrder α] [IsStrictOrderedRing α] in
/-- The episode a row is about. -/
def idOf (row : Row α) : Option String := (strOf pyStr (field row "episode_id")).toOption

omit [IsStrictOrderedRing α] in
/-- The episodes some row starts. -/
def startedEpisodes (rows : List (Row α)) : Set String :=
  {id | ∃ row ∈ rows, (isExplicitStart row = true ∨ isInferredEpisodeStart row = true) ∧
    idOf pyStr row = some id}

omit [Field α] [LinearOrder α] [IsStrictOrderedRing α] in
/-- The rows that close an episode, those that only imply it last. -/
def closeRows (rows : List (Row α)) : List (Row α) :=
  rows.filter isExplicitClose ++
    rows.filterMap fun row => (inferredEpisodeClose row).toOption.join

/-- When a row was written, never when it does not say. -/
def stamp (row : Row α) : PyFloat α := (timestampOr F .negInf row).toOption.getD .negInf

/-- The later of two closing rows, the second one when the order is open. -/
def later (current : Option (Row α)) (row : Row α) : Option (Row α) :=
  match current with
  | none => some row
  | some old => if stamp F old ≤ stamp F row then some row else some old

/-- The last of some closing rows that is about an episode. -/
def latest (closing : List (Row α)) (id : String) : Option (Row α) :=
  (closing.filter fun row => idOf pyStr row = some id).foldl (later F) none

/-- The row that closes an episode for good. -/
def lastClose (rows : List (Row α)) (id : String) : Option (Row α) :=
  latest pyStr F (closeRows rows) id

/-- The episodes that are closed without the commander. -/
def locallyClosedEpisodes (rows : List (Row α)) : Set String :=
  {id | ∃ row, lastClose pyStr F rows id = some row ∧ locallyClosed row = .ok true}

end Collections

section Overrides

variable {α : Type} (pyStr : PyVal α → Except PyErr String)

/-- The key of the decision of a row. -/
def keyOf (entry : Row α × ℕ) : Option String := (decisionKey pyStr entry.1 entry.2).toOption

variable [Field α] [LinearOrder α]

/-- The key of the proposal a name stands for: that of the first review with the name. -/
def reviewNamed (entries : List (Row α × ℕ)) (name : String) : Option String :=
  entries.findSome? fun entry =>
    if isReview entry.1 ∧ name ∈ (reviewAliases pyStr entry.1 entry.2).toOption.getD [] then
      keyOf pyStr entry
    else none

/-- The proposals the commander reviewed. -/
def reviewedProposals (rows : List (Row α)) : Set String :=
  {key | ∃ entry ∈ rows.zipIdx, isReview entry.1 = true ∧ keyOf pyStr entry = some key}

/-- The proposals a review rejects or overrides. -/
def rejectedProposals (rows : List (Row α)) : Set String :=
  {key | ∃ entry ∈ rows.zipIdx, (isReview entry.1 = true ∧
    isCommanderOverrideVerdict (field entry.1 "verdict") = .ok true) ∧
      keyOf pyStr entry = some key}

/-- The episodes in which some review names its proposal or its event. -/
def specificEpisodes (rows : List (Row α)) : Set String :=
  {id | ∃ row ∈ rows, (isReview row = true ∧ hasSpecificDecisionId row = true) ∧
    episodeId pyStr row = .ok (some id)}

/-- A row reports an override, and is not the mere echo of a more specific review. -/
def ReportsOverride (rows : List (Row α)) (row : Row α) : Prop :=
  reads row "event_type" "commander_override" = true ∧
    ¬ ((∃ id ∈ specificEpisodes pyStr rows, episodeId pyStr row = .ok (some id)) ∧
      hasSpecificDecisionId row = false)

/-- The proposal an overriding row is about: one of those reviewed, or one of its own. -/
def overriddenKey (rows : List (Row α)) (entry : Row α × ℕ) : Option String :=
  (((decisionAliases pyStr entry.1 entry.2).toOption.getD []).findSome?
    (reviewNamed pyStr rows.zipIdx)).or (keyOf pyStr entry)

/-- The proposals a row reports as overridden: one, or none. -/
def reportedOverrides (rows : List (Row α)) (entry : Row α × ℕ) : Set String :=
  {key | ReportsOverride pyStr rows entry.1 ∧ overriddenKey pyStr rows entry = some key}

/-- The proposals the commander overrode. -/
def overriddenProposals (rows : List (Row α)) : Set String :=
  rejectedProposals pyStr rows ∪
    {key | ∃ entry ∈ rows.zipIdx, key ∈ reportedOverrides pyStr rows entry}

end Overrides

/-! ## Shares -/

section Shares

variable {α : Type} [Field α] [LinearOrder α] [IsStrictOrderedRing α]

omit [IsStrictOrderedRing α] in
/-- A metric that is `None` or lies in `[0, 1]`. -/
def InUnit (share : Option (PyFloat α)) : Prop := ∀ x, share = some x → .fin 0 ≤ x ∧ x ≤ .fin 1

/-- All metrics that are read as shares lie in `[0, 1]`. -/
structure SharesInUnit (m : ConversationBenchMetrics α) : Prop where
  autonomyRatio : InUnit m.autonomyRatio
  commanderOverrideRate : InUnit m.commanderOverrideRate
  localResolutionRate : InUnit m.localResolutionRate
  contractViolationRate : InUnit m.contractViolationRate
  contractUnknownRate : InUnit m.contractUnknownRate

/-- The strays of a numerator are no more than what it leaves out of its denominator, unless the
denominator is empty and no ratio is reported. -/
def Covers (denominator numerator : Set String) : Prop :=
  denominator = ∅ ∨ (numerator \ denominator).ncard ≤ (denominator \ numerator).ncard

/-- A format tells a quotient of counts up to a bound from one when it is above one. -/
def Resolves (F : FloatFormat α) (bound : ℕ) : Prop :=
  ∀ n d : ℕ, n ≤ bound → 0 < d → d < n → .fin 1 < F.round (n / d)

variable {F : FloatFormat α}

/-- A ratio is `None` over nothing, and the rounded quotient over anything else. -/
lemma ratio_cases {n d : ℕ} {share : Option (PyFloat α)} (h : ratio F n d = .ok share) :
    d = 0 ∧ share = none ∨ d ≠ 0 ∧ share = some (F.round (n / d)) := by
  unfold ratio at h
  by_cases hd : d = 0
  · rw [if_pos hd] at h
    exact .inl ⟨hd, (Except.ok.inj h).symm⟩
  · rw [if_neg hd] at h
    dsimp only at h
    split_ifs at h
    exact .inr ⟨hd, (Except.ok.inj h).symm⟩

/-- A ratio is a share when its numerator is at most its denominator. -/
lemma inUnit_of_ratio (hone : F.round 1 = .fin 1) {n d : ℕ} {share : Option (PyFloat α)}
    (h : ratio F n d = .ok share) (hle : d = 0 ∨ n ≤ d) : InUnit share := by
  intro x hx
  obtain ⟨-, hnone⟩ | ⟨hd, hsome⟩ := ratio_cases h
  · rw [hnone] at hx
    exact absurd hx (by simp)
  · rw [hsome] at hx
    have hnd : n ≤ d := hle.resolve_left hd
    have hpos : (0 : α) < d := by exact_mod_cast Nat.pos_of_ne_zero hd
    have hlow : (0 : α) ≤ n / d := div_nonneg (Nat.cast_nonneg n) hpos.le
    have hhigh : (n : α) / d ≤ 1 := (div_le_one hpos).mpr (by exact_mod_cast hnd)
    rw [← Option.some.inj hx]
    constructor
    · rw [← F.round_zero]
      exact F.round_mono hlow
    · rw [← hone]
      exact F.round_mono hhigh

/-- A ratio whose format resolves its counts is a share for no other reason. -/
lemma le_of_inUnit {bound n d : ℕ} (hres : Resolves F bound) (hn : n ≤ bound)
    {share : Option (PyFloat α)} (h : ratio F n d = .ok share) (hunit : InUnit share) :
    d = 0 ∨ n ≤ d := by
  by_contra hcon
  obtain ⟨hd, hlt⟩ := not_or.mp hcon
  have hpos : 0 < d := Nat.pos_of_ne_zero hd
  have habove : .fin 1 < F.round (n / d) := hres n d hn hpos (not_le.mp hlt)
  obtain ⟨hzero, -⟩ | ⟨-, hsome⟩ := ratio_cases h
  · exact hd hzero
  · exact PyFloat.not_lt_of_le (hunit _ hsome).2 habove

/-- A count of finite collections is covered when the strays are. -/
lemma covers_iff {denominator numerator : Set String} (hd : denominator.Finite)
    (hn : numerator.Finite) :
    Covers denominator numerator ↔ denominator.ncard = 0 ∨ numerator.ncard ≤ denominator.ncard := by
  have hzero : denominator.ncard = 0 ↔ denominator = ∅ := Set.ncard_eq_zero hd
  unfold Covers
  rw [hzero, Set.ncard_le_ncard_iff_ncard_sdiff_le_ncard_sdiff hn hd]

end Shares

/-! ## Episodes -/

/-- The entries of a dictionary whose values pass a test, counted by their keys. -/
lemma ncard_keys {κ ν : Type} [DecidableEq κ] (d : Dict κ ν) (p : ν → Bool) :
    {k | ∃ v, d.get? k = some v ∧ p v = true}.Finite ∧
      {k | ∃ v, d.get? k = some v ∧ p v = true}.ncard = d.entries.countP fun e => p e.2 := by
  have hcoe : {k | ∃ v, d.get? k = some v ∧ p v = true} =
      (((d.entries.filter fun e => p e.2).map Prod.fst).toFinset : Set κ) := by
    ext k
    simp [← d.mem_entries_iff]
  have hnodup : ((d.entries.filter fun e => p e.2).map Prod.fst).Nodup :=
    d.nodup.sublist (List.filter_sublist.map Prod.fst)
  rw [hcoe, Set.ncard_coe_finset, List.toFinset_card_of_nodup hnodup, List.length_map,
    List.countP_eq_length_filter]
  exact ⟨Finset.finite_toSet _, rfl⟩

section Episodes

variable {α : Type} [Field α] [LinearOrder α] [IsStrictOrderedRing α]
  {pyStr : PyVal α → Except PyErr String} {F : FloatFormat α}

/-- The keys of a dictionary. -/
def keys {κ ν : Type} [DecidableEq κ] (d : Dict κ ν) : Set κ := {k | ∃ v, d.get? k = some v}

lemma keys_set {κ ν : Type} [DecidableEq κ] (d : Dict κ ν) (k : κ) (v : ν) :
    keys (d.set k v) = keys d ∪ {k} := by
  ext j
  by_cases hj : j = k
  · simp [keys, hj]
  · simp [keys, hj, d.get?_set_of_ne v hj]

omit [Field α] [LinearOrder α] [IsStrictOrderedRing α] in
lemma idOf_eq_some {row : Row α} {id : String} :
    idOf pyStr row = some id ↔ strOf pyStr (field row "episode_id") = .ok id := by
  unfold idOf
  cases strOf pyStr (field row "episode_id") <;> simp [Except.toOption]

/-- A starting row enters its episode. -/
lemma keys_rememberEarliest {target target' : Dict String (Row α)} {row : Row α}
    (h : rememberEarliest pyStr F target row = .ok target') :
    keys target' = keys target ∪ {id | idOf pyStr row = some id} := by
  obtain ⟨id, hid, h⟩ := exceptBind_eq_ok.mp h
  have hone : {j | idOf pyStr row = some j} = {id} := by
    ext j
    simp [idOf_eq_some.mpr hid, eq_comm]
  rw [hone]
  cases hcurrent : target.get? id with
  | none =>
    rw [hcurrent] at h
    obtain rfl := Except.ok.inj h
    exact keys_set target id row
  | some current =>
    rw [hcurrent] at h
    obtain ⟨new, -, h⟩ := exceptBind_eq_ok.mp h
    obtain ⟨old, -, h⟩ := exceptBind_eq_ok.mp h
    obtain rfl := Except.ok.inj h
    split_ifs
    · exact keys_set target id row
    · have hmem : id ∈ keys target := ⟨current, hcurrent⟩
      exact (Set.union_eq_self_of_subset_right (Set.singleton_subset_iff.mpr hmem)).symm

/-- The starts are the episodes that some row starts. -/
lemma keys_episodeStarts {rows : List (Row α)} {starts : Dict String (Row α)}
    (h : episodeStarts pyStr F rows = .ok starts) : keys starts = startedEpisodes pyStr rows := by
  obtain ⟨explicit, hexplicit, hinferred⟩ := exceptBind_eq_ok.mp h
  have hstep : ∀ (s : Dict String (Row α)) row s', rememberEarliest pyStr F s row = .ok s' →
      keys s' = keys s ∪ {id | idOf pyStr row = some id} := fun _ _ _ => keys_rememberEarliest
  ext id
  have hfirst := mem_of_foldlM keys _ hstep hexplicit id
  have hempty : id ∉ keys (Dict.empty : Dict String (Row α)) := by simp [keys]
  rw [mem_of_foldlM keys _ hstep hinferred id, hfirst]
  simp only [hempty, false_or, List.mem_filter, startedEpisodes, Set.mem_ofPred_eq]
  constructor
  · rintro (⟨row, ⟨hrow, hs⟩, hid⟩ | ⟨row, ⟨hrow, hs⟩, hid⟩)
    · exact ⟨row, hrow, .inl hs, hid⟩
    · exact ⟨row, hrow, .inr hs, hid⟩
  · rintro ⟨row, hrow, hs | hs, hid⟩
    · exact .inl ⟨row, ⟨hrow, hs⟩, hid⟩
    · exact .inr ⟨row, ⟨hrow, hs⟩, hid⟩

/-- The starts count the started episodes. -/
lemma ncard_startedEpisodes {rows : List (Row α)} {starts : Dict String (Row α)}
    (h : episodeStarts pyStr F rows = .ok starts) :
    (startedEpisodes pyStr rows).Finite ∧
      (startedEpisodes pyStr rows).ncard = starts.entries.length := by
  have hkeys : {k | ∃ v, starts.get? k = some v ∧ (fun _ : Row α => true) v = true} =
      startedEpisodes pyStr rows := by
    rw [← keys_episodeStarts h]
    simp [keys]
  have hcount := ncard_keys starts fun _ => true
  rw [hkeys] at hcount
  simpa using hcount

/-- One more closing row of the episode is weighed against the last one. -/
lemma latest_concat (closing : List (Row α)) (row : Row α) (id : String) :
    latest pyStr F (closing ++ [row]) id =
      if idOf pyStr row = some id then later F (latest pyStr F closing id) row
      else latest pyStr F closing id := by
  unfold latest
  rw [List.filter_append]
  split_ifs with hid
  · have hsingle : [row].filter (fun row => idOf pyStr row = some id) = [row] := by simp [hid]
    rw [hsingle, List.foldl_append, List.foldl_cons, List.foldl_nil]
  · have hsingle : [row].filter (fun row => idOf pyStr row = some id) = [] := by simp [hid]
    rw [hsingle, List.append_nil]

lemma stamp_eq {row : Row α} {x : PyFloat α} (h : timestampOr F .negInf row = .ok x) :
    stamp F row = x := by
  rw [stamp, h]
  rfl

/-- A closing row replaces the one of its episode when it is not earlier. -/
lemma get?_rememberLatest {target target' : Dict String (Row α)} {row : Row α}
    (h : rememberLatest pyStr F target row = .ok target') (id : String) :
    target'.get? id =
      if idOf pyStr row = some id then later F (target.get? id) row else target.get? id := by
  obtain ⟨own, hown, h⟩ := exceptBind_eq_ok.mp h
  rw [idOf_eq_some.mpr hown]
  -- What the dictionary holds for the row's own episode is replaced, the rest stays.
  have hother : ∀ v, own ≠ id → (target.set own v).get? id = target.get? id :=
    fun v hne => target.get?_set_of_ne v (Ne.symm hne)
  cases hcurrent : target.get? own with
  | none =>
    rw [hcurrent] at h
    obtain rfl := Except.ok.inj h
    by_cases heq : own = id
    · subst heq
      rw [if_pos rfl, target.get?_set_self, hcurrent]
      rfl
    · rw [if_neg (fun hcon => heq (Option.some.inj hcon)), hother row heq]
  | some current =>
    rw [hcurrent] at h
    obtain ⟨new, hnew, h⟩ := exceptBind_eq_ok.mp h
    obtain ⟨old, hold, h⟩ := exceptBind_eq_ok.mp h
    obtain rfl := Except.ok.inj h
    by_cases heq : own = id
    · subst heq
      rw [if_pos rfl, hcurrent]
      unfold later
      dsimp only
      rw [stamp_eq hnew, stamp_eq hold]
      split_ifs
      · exact target.get?_set_self own row
      · exact hcurrent
    · rw [if_neg (fun hcon => heq (Option.some.inj hcon))]
      split_ifs
      · exact hother row heq
      · rfl

/-- The closes hold the row that closes each episode for good. -/
lemma get?_episodeCloses {rows : List (Row α)} {closes : Dict String (Row α)}
    (h : episodeCloses pyStr F rows = .ok closes) (id : String) :
    closes.get? id = lastClose pyStr F rows id := by
  obtain ⟨explicit, hexplicit, hinferred⟩ := exceptBind_eq_ok.mp h
  let implied (row : Row α) : Option (Row α) := (inferredEpisodeClose row).toOption.join
  -- The first loop has weighed the explicit closes, the second those it has come to.
  have hfirst : explicit.get? id = latest pyStr F (rows.filter isExplicitClose) id := by
    have hkept : ∀ pre row (t t' : Dict String (Row α)), t.get? id = latest pyStr F pre id →
        rememberLatest pyStr F t row = .ok t' → t'.get? id = latest pyStr F (pre ++ [row]) id := by
      intro pre row t t' ht hrow
      rw [get?_rememberLatest hrow, latest_concat, ht]
    exact foldlM_history hkept [] rfl hexplicit
  have hkept : ∀ pre row (t t' : Dict String (Row α)),
      t.get? id = latest pyStr F (rows.filter isExplicitClose ++ pre.filterMap implied) id →
      rememberInferred pyStr F t row = .ok t' →
      t'.get? id =
        latest pyStr F (rows.filter isExplicitClose ++ (pre ++ [row]).filterMap implied) id := by
    intro pre row t t' ht hrow
    obtain ⟨inferred, hinf, hrow⟩ := exceptBind_eq_ok.mp hrow
    have himplied : implied row = inferred := by simp [implied, hinf, Except.toOption]
    rw [List.filterMap_append]
    cases inferred with
    | none =>
      obtain rfl := Except.ok.inj hrow
      have hnone : [row].filterMap implied = [] := by simp [himplied]
      rw [hnone, List.append_nil, ht]
    | some close =>
      have hsome : [row].filterMap implied = [close] := by simp [himplied]
      rw [hsome, ← List.append_assoc, latest_concat, get?_rememberLatest hrow, ht]
  exact foldlM_history hkept [] (by simpa using hfirst) hinferred

/-- The closes that pass the local test count the locally closed episodes. -/
lemma ncard_locallyClosedEpisodes {rows : List (Row α)} {closes : Dict String (Row α)} {n : ℕ}
    (h : episodeCloses pyStr F rows = .ok closes)
    (hcount : countM locallyClosed (closes.entries.map Prod.snd) = .ok n) :
    (locallyClosedEpisodes pyStr F rows).Finite ∧
      (locallyClosedEpisodes pyStr F rows).ncard = n := by
  have hset : {k | ∃ v, closes.get? k = some v ∧ passes locallyClosed v = true} =
      locallyClosedEpisodes pyStr F rows := by
    ext id
    simp only [Set.mem_ofPred_eq, passes_iff, get?_episodeCloses h id, locallyClosedEpisodes]
  have hkeys := ncard_keys closes (passes locallyClosed)
  have hpasses : n = closes.entries.countP fun e => passes locallyClosed e.2 := by
    rw [countM_eq_ok hcount, List.countP_map]
    rfl
  rw [hset] at hkeys
  rw [hpasses]
  exact hkeys

end Episodes

/-! ## Reviews and overrides -/

lemma exists_mem_zipIdx {β : Type} (bs : List β) (P : β → Prop) :
    (∃ entry ∈ bs.zipIdx, P entry.1) ↔ ∃ b ∈ bs, P b := by
  conv_rhs => rw [← List.zipIdx_map_fst 0 bs]
  simp only [List.mem_map, exists_exists_and_eq_and]

section Reviews

variable {α : Type} [Field α] [LinearOrder α] {pyStr : PyVal α → Except PyErr String}

/-- What a turn of the first loop does with a review, and that it passes over any other row. -/
lemma noteReview_cases {s s' : Reviews} {entry : Row α × ℕ}
    (h : noteReview pyStr s entry = .ok s') :
    (isReview entry.1 = false ∧ s' = s) ∨
      isReview entry.1 = true ∧ ∃ key id aliases overridden,
        keyOf pyStr entry = some key ∧ episodeId pyStr entry.1 = .ok id ∧
        (reviewAliases pyStr entry.1 entry.2).toOption.getD [] = aliases ∧
        isCommanderOverrideVerdict (field entry.1 "verdict") = .ok overridden ∧
        s' =
          { reviewKeys := insert key s.reviewKeys
            overrideKeys := if overridden then insert key s.overrideKeys else s.overrideKeys
            reviewAliases := aliases.foldl (fun d name => d.setDefault name key) s.reviewAliases
            episodesWithSpecificReviews :=
              if hasSpecificDecisionId entry.1 then id.toFinset ∪ s.episodesWithSpecificReviews
              else s.episodesWithSpecificReviews } := by
  unfold noteReview at h
  cases hreview : isReview entry.1 with
  | false =>
    rw [hreview] at h
    exact .inl ⟨rfl, (Except.ok.inj h).symm⟩
  | true =>
    rw [hreview] at h
    obtain ⟨key, hkey, h⟩ := exceptBind_eq_ok.mp h
    obtain ⟨id, hid, h⟩ := exceptBind_eq_ok.mp h
    obtain ⟨aliases, haliases, h⟩ := exceptBind_eq_ok.mp h
    obtain ⟨overridden, hverdict, h⟩ := exceptBind_eq_ok.mp h
    have hkeyOf : keyOf pyStr entry = some key := by simp [keyOf, hkey, Except.toOption]
    have hnames : (reviewAliases pyStr entry.1 entry.2).toOption.getD [] = aliases := by
      simp [haliases, Except.toOption]
    exact .inr ⟨rfl, key, id, aliases, overridden, hkeyOf, hid, hnames, hverdict,
      (Except.ok.inj h).symm⟩

/-- The first loop collects the reviewed proposals. -/
lemma coe_reviewKeys {rows : List (Row α)} {reviews : Reviews}
    (h : rows.zipIdx.foldlM (noteReview pyStr) Reviews.empty = .ok reviews) :
    (reviews.reviewKeys : Set String) = reviewedProposals pyStr rows := by
  let new (entry : Row α × ℕ) : Set String :=
    {key | isReview entry.1 = true ∧ keyOf pyStr entry = some key}
  have hstep : ∀ (s : Reviews) entry s', noteReview pyStr s entry = .ok s' →
      (s'.reviewKeys : Set String) = (s.reviewKeys : Set String) ∪ new entry := by
    intro s entry s' hs
    obtain ⟨hnot, rfl⟩ | ⟨hreview, key, id, aliases, overridden, hkey, -, -, -, rfl⟩ :=
      noteReview_cases hs
    · simp [new, hnot]
    · have hnew : new entry = {key} := by
        ext k
        simp only [new, Set.mem_ofPred_eq, hreview, hkey, Option.some.injEq, true_and]
        exact eq_comm
      rw [hnew, Set.union_singleton]
      exact Finset.coe_insert key s.reviewKeys
  rw [coe_of_foldlM Reviews.reviewKeys new hstep h]
  simp [Reviews.empty, new, reviewedProposals]

/-- The first loop enters the proposals a review rejects among the overridden ones. -/
lemma coe_overrideKeys {rows : List (Row α)} {reviews : Reviews}
    (h : rows.zipIdx.foldlM (noteReview pyStr) Reviews.empty = .ok reviews) :
    (reviews.overrideKeys : Set String) = rejectedProposals pyStr rows := by
  let new (entry : Row α × ℕ) : Set String :=
    {key | (isReview entry.1 = true ∧
      isCommanderOverrideVerdict (field entry.1 "verdict") = .ok true) ∧
        keyOf pyStr entry = some key}
  have hstep : ∀ (s : Reviews) entry s', noteReview pyStr s entry = .ok s' →
      (s'.overrideKeys : Set String) = (s.overrideKeys : Set String) ∪ new entry := by
    intro s entry s' hs
    obtain ⟨hnot, rfl⟩ | ⟨hreview, key, id, aliases, overridden, hkey, -, -, hverdict, rfl⟩ :=
      noteReview_cases hs
    · simp [new, hnot]
    · cases overridden with
      | false => simp [new, hverdict]
      | true =>
        have hnew : new entry = {key} := by
          ext k
          simp only [new, Set.mem_ofPred_eq, hreview, hverdict, hkey, Option.some.injEq, true_and]
          exact eq_comm
        rw [hnew, Set.union_singleton]
        exact Finset.coe_insert key s.overrideKeys
  rw [coe_of_foldlM Reviews.overrideKeys new hstep h]
  simp [Reviews.empty, new, rejectedProposals]

/-- The first loop collects the episodes with specific reviews. -/
lemma coe_episodesWithSpecificReviews {rows : List (Row α)} {reviews : Reviews}
    (h : rows.zipIdx.foldlM (noteReview pyStr) Reviews.empty = .ok reviews) :
    (reviews.episodesWithSpecificReviews : Set String) = specificEpisodes pyStr rows := by
  let new (entry : Row α × ℕ) : Set String :=
    {id | (isReview entry.1 = true ∧ hasSpecificDecisionId entry.1 = true) ∧
      episodeId pyStr entry.1 = .ok (some id)}
  have hstep : ∀ (s : Reviews) entry s', noteReview pyStr s entry = .ok s' →
      (s'.episodesWithSpecificReviews : Set String) =
        (s.episodesWithSpecificReviews : Set String) ∪ new entry := by
    intro s entry s' hs
    obtain ⟨hnot, rfl⟩ | ⟨hreview, key, id, aliases, overridden, -, hid, -, -, rfl⟩ :=
      noteReview_cases hs
    · simp [new, hnot]
    · cases hspecific : hasSpecificDecisionId entry.1 with
      | false => simp [new, hspecific]
      | true =>
        have hnew : new entry = (id.toFinset : Set String) := by
          ext k
          simp [new, hreview, hspecific, hid]
        rw [hnew, Set.union_comm]
        exact Finset.coe_union _ _
  rw [coe_of_foldlM Reviews.episodesWithSpecificReviews new hstep h]
  ext id
  rw [specificEpisodes, Set.mem_ofPred_eq,
    ← exists_mem_zipIdx rows fun row => (isReview row = true ∧ hasSpecificDecisionId row = true) ∧
      episodeId pyStr row = .ok (some id)]
  simp [Reviews.empty, new]

/-- The aliases of a review name it where nothing else is named yet. -/
lemma get?_foldl_setDefault (names : List String) (key : String) (d : Dict String String)
    (name : String) :
    (names.foldl (fun d name => d.setDefault name key) d).get? name =
      (d.get? name).or (if name ∈ names then some key else none) := by
  induction names generalizing d with
  | nil => simp
  | cons first names ih =>
    rw [List.foldl_cons, ih, d.get?_setDefault]
    by_cases hname : name = first
    · subst hname
      cases hget : d.get? name <;> simp [Dict.getD, hget]
    · simp [hname]

/-- The first loop leaves every alias with the first review that has it. -/
lemma get?_reviewAliases {rows : List (Row α)} {reviews : Reviews}
    (h : rows.zipIdx.foldlM (noteReview pyStr) Reviews.empty = .ok reviews) (name : String) :
    reviews.reviewAliases.get? name = reviewNamed pyStr rows.zipIdx name := by
  have hkept : ∀ pre entry (s s' : Reviews),
      s.reviewAliases.get? name = reviewNamed pyStr pre name →
      noteReview pyStr s entry = .ok s' →
      s'.reviewAliases.get? name = reviewNamed pyStr (pre ++ [entry]) name := by
    intro pre entry s s' hs hentry
    unfold reviewNamed at hs ⊢
    rw [List.findSome?_append, ← hs, List.findSome?_singleton]
    obtain ⟨hnot, rfl⟩ | ⟨hreview, key, id, aliases, overridden, hkey, -, hnames, -, rfl⟩ :=
      noteReview_cases hentry
    · simp [hnot]
    · simp only [hreview, hnames, hkey, true_and]
      exact get?_foldl_setDefault aliases key s.reviewAliases name
  exact foldlM_history hkept [] rfl h

/-- The second loop finds the proposal of an overriding row among the reviewed ones. -/
lemma overriddenKey_eq {rows : List (Row α)} {reviews : Reviews}
    (h : rows.zipIdx.foldlM (noteReview pyStr) Reviews.empty = .ok reviews) {entry : Row α × ℕ}
    {key : String} (hkey : reviewKeyForRow pyStr reviews.reviewAliases entry.1 entry.2 = .ok key) :
    overriddenKey pyStr rows entry = some key := by
  obtain ⟨names, hnames, hkey⟩ := exceptBind_eq_ok.mp hkey
  have hget : reviews.reviewAliases.get? = reviewNamed pyStr rows.zipIdx :=
    funext (get?_reviewAliases h)
  have haliases : (decisionAliases pyStr entry.1 entry.2).toOption.getD [] = names := by
    simp [hnames, Except.toOption]
  rw [hget] at hkey
  unfold overriddenKey
  rw [haliases]
  cases hfound : names.findSome? (reviewNamed pyStr rows.zipIdx) with
  | none =>
    rw [hfound] at hkey
    have hown : keyOf pyStr entry = some key := by
      unfold keyOf
      rw [show decisionKey pyStr entry.1 entry.2 = .ok key from hkey]
      rfl
    rw [Option.none_or, hown]
  | some found =>
    rw [hfound] at hkey
    rw [Option.some_or, Except.ok.inj hkey]

/-- One turn of the second loop enters the proposal of a row that reports an override. -/
lemma coe_noteOverride {rows : List (Row α)} {reviews : Reviews}
    (h : rows.zipIdx.foldlM (noteReview pyStr) Reviews.empty = .ok reviews)
    {keys keys' : Finset String} {entry : Row α × ℕ}
    (hentry : noteOverride pyStr reviews keys entry = .ok keys') :
    (keys' : Set String) = (keys : Set String) ∪ reportedOverrides pyStr rows entry := by
  have hspecific := coe_episodesWithSpecificReviews h
  unfold noteOverride at hentry
  cases hevent : reads entry.1 "event_type" "commander_override" with
  | false =>
    rw [hevent] at hentry
    obtain rfl := Except.ok.inj hentry
    simp [reportedOverrides, ReportsOverride, hevent]
  | true =>
    rw [hevent] at hentry
    obtain ⟨id, hid, hentry⟩ := exceptBind_eq_ok.mp hentry
    -- The row is passed over exactly when it only echoes a more specific review.
    have hecho : (id.any (· ∈ reviews.episodesWithSpecificReviews) &&
          !hasSpecificDecisionId entry.1) = true ↔
        (∃ id ∈ specificEpisodes pyStr rows, episodeId pyStr entry.1 = .ok (some id)) ∧
          hasSpecificDecisionId entry.1 = false := by
      rw [← hspecific, hid]
      cases id <;> simp
    split_ifs at hentry with hskip
    · obtain rfl := Except.ok.inj hentry
      have hnot : ¬ ReportsOverride pyStr rows entry.1 := fun hreports =>
        hreports.2 (hecho.mp hskip)
      simp [reportedOverrides, hnot]
    · obtain ⟨key, hkey, hentry⟩ := exceptBind_eq_ok.mp hentry
      obtain rfl := Except.ok.inj hentry
      have hreports : ReportsOverride pyStr rows entry.1 := ⟨hevent, fun hcon =>
        hskip (hecho.mpr hcon)⟩
      have hnew : reportedOverrides pyStr rows entry = {key} := by
        ext k
        simp only [reportedOverrides, Set.mem_ofPred_eq, hreports, overriddenKey_eq h hkey,
          Option.some.injEq, true_and]
        exact eq_comm
      rw [hnew, Finset.coe_insert, Set.union_singleton]

/-- The second loop leaves the overridden proposals. -/
lemma coe_overriddenProposals {rows : List (Row α)} {reviews : Reviews}
    (h : rows.zipIdx.foldlM (noteReview pyStr) Reviews.empty = .ok reviews)
    {overrideKeys : Finset String}
    (hkeys : rows.zipIdx.foldlM (noteOverride pyStr reviews) reviews.overrideKeys =
      .ok overrideKeys) :
    (overrideKeys : Set String) = overriddenProposals pyStr rows := by
  have hstep : ∀ (keys : Finset String) entry keys',
      noteOverride pyStr reviews keys entry = .ok keys' →
      (keys' : Set String) = (keys : Set String) ∪ reportedOverrides pyStr rows entry :=
    fun _ _ _ => coe_noteOverride h
  have hcoe := coe_of_foldlM id _ hstep hkeys
  rw [id, id, coe_overrideKeys h] at hcoe
  exact hcoe

/-- What the two counts of the reviews count; without a review they are the same. -/
lemma commanderOverrideCounts_eq {rows : List (Row α)} {overrides reviewed : ℕ}
    (h : commanderOverrideCounts pyStr rows = .ok (overrides, reviewed)) :
    (reviewedProposals pyStr rows).Finite ∧ (overriddenProposals pyStr rows).Finite ∧
      overrides = (overriddenProposals pyStr rows).ncard ∧
      reviewed = if (reviewedProposals pyStr rows).ncard = 0 then overrides
        else (reviewedProposals pyStr rows).ncard := by
  obtain ⟨reviews, hreviews, h⟩ := exceptBind_eq_ok.mp h
  obtain ⟨overrideKeys, hkeys, h⟩ := exceptBind_eq_ok.mp h
  have hreviewed := coe_reviewKeys hreviews
  have hoverridden := coe_overriddenProposals hreviews hkeys
  obtain ⟨rfl, rfl⟩ := Prod.mk.inj (Except.ok.inj h)
  rw [← hreviewed, ← hoverridden, Set.ncard_coe_finset, Set.ncard_coe_finset]
  refine ⟨Finset.finite_toSet _, Finset.finite_toSet _, rfl, ?_⟩
  by_cases hnone : reviews.reviewKeys.card = 0
  · have hempty : ¬ reviews.reviewKeys.Nonempty := by
      rw [Finset.card_eq_zero.mp hnone]
      exact Finset.not_nonempty_empty
    rw [if_neg hempty, if_pos hnone]
  · rw [if_pos (Finset.card_pos.mp (Nat.pos_of_ne_zero hnone)), if_neg hnone]

end Reviews

/-! ## Contracts -/

section Contracts

variable {α : Type} {pyStr : PyVal α → Except PyErr String}

/-- An evaluation counts as violated only together with being evaluable. -/
lemma noteEvaluation_le {s s' : Contracts} {row : Row α} (hs : s.violated ≤ s.evaluable)
    (h : noteEvaluation pyStr s row = .ok s') : s'.violated ≤ s'.evaluable := by
  unfold noteEvaluation at h
  by_cases hskip : (!reads row "record_type" "contract_evaluation") = true
  · rw [if_pos hskip] at h
    rwa [← Except.ok.inj h]
  · rw [if_neg hskip] at h
    obtain ⟨id, -, h⟩ := exceptBind_eq_ok.mp h
    by_cases hviolated : reads row "verdict" "violated" = true
    · rw [if_pos hviolated] at h
      rw [← Except.ok.inj h]
      exact Nat.succ_le_succ hs
    · rw [if_neg hviolated] at h
      obtain ⟨kept, -, h⟩ := exceptBind_eq_ok.mp h
      split_ifs at h
      · rw [← Except.ok.inj h]
        exact Nat.le_succ_of_le hs
      · rwa [← Except.ok.inj h]
      · rwa [← Except.ok.inj h]

/-- The violated agreements are among the evaluable ones. -/
lemma violated_le_evaluable {rows : List (Row α)} {violated evaluable unknown : ℕ}
    (h : contractCounts pyStr rows = .ok (violated, evaluable, unknown)) :
    violated ≤ evaluable := by
  obtain ⟨s, hs, h⟩ := exceptBind_eq_ok.mp h
  obtain ⟨created, -, h⟩ := exceptBind_eq_ok.mp h
  obtain ⟨verdicts, -, h⟩ := exceptBind_eq_ok.mp h
  obtain ⟨rfl, hrest⟩ := Prod.mk.inj (Except.ok.inj h)
  obtain ⟨rfl, -⟩ := Prod.mk.inj hrest
  have hkept : ∀ (pre : List (Row α)) row (t t' : Contracts), t.violated ≤ t.evaluable →
      noteEvaluation pyStr t row = .ok t' → t'.violated ≤ t'.evaluable :=
    fun _ _ _ _ => noteEvaluation_le
  have hexplicit : s.violated ≤ s.evaluable := foldlM_history hkept [] le_rfl hs
  omega

end Contracts

/-! ## The shares of a log -/

section Main

variable {α : Type} [Field α] [LinearOrder α] [IsStrictOrderedRing α]
  {pyStr : PyVal α → Except PyErr String} {F : FloatFormat α}

variable (pyStr F) in
/-- Every closed episode is named by a row that closes it. -/
lemma ncard_locallyClosedEpisodes_le (rows : List (Row α)) :
    (locallyClosedEpisodes pyStr F rows).ncard ≤ 2 * rows.length := by
  obtain ⟨hnamed, hle⟩ := ncard_images_le (idOf pyStr) (closeRows rows)
  have hlength : (closeRows rows).length ≤ 2 * rows.length := by
    have hexplicit : (rows.filter isExplicitClose).length ≤ rows.length :=
      List.length_filter_le _ _
    have himplied := List.length_filterMap_le
      (fun row : Row α => (inferredEpisodeClose row).toOption.join) rows
    rw [closeRows, List.length_append]
    omega
  have hsubset : locallyClosedEpisodes pyStr F rows ⊆
      {id | ∃ row ∈ closeRows rows, idOf pyStr row = some id} := by
    rintro id ⟨close, hclose, -⟩
    have hne : (closeRows rows).filter (fun row => idOf pyStr row = some id) ≠ [] := by
      intro hnil
      rw [lastClose, latest, hnil] at hclose
      exact absurd hclose (by simp)
    obtain ⟨row, hrow⟩ := List.exists_mem_of_ne_nil _ hne
    obtain ⟨hmem, hid⟩ := List.mem_filter.mp hrow
    exact ⟨row, hmem, by simpa using hid⟩
  exact (Set.ncard_le_ncard hsubset hnamed).trans (hle.trans hlength)

omit [IsStrictOrderedRing α] in
variable (pyStr) in
/-- A row overrides one proposal by its verdict, and one by its event. -/
lemma ncard_overriddenProposals_le (rows : List (Row α)) :
    (overriddenProposals pyStr rows).ncard ≤ 2 * rows.length := by
  obtain ⟨hfirst, hfirstle⟩ := ncard_images_le (keyOf pyStr) rows.zipIdx
  obtain ⟨hsecond, hsecondle⟩ := ncard_images_le (overriddenKey pyStr rows) rows.zipIdx
  have hsubset : overriddenProposals pyStr rows ⊆
      {key | ∃ entry ∈ rows.zipIdx, keyOf pyStr entry = some key} ∪
        {key | ∃ entry ∈ rows.zipIdx, overriddenKey pyStr rows entry = some key} := by
    rintro key (⟨entry, hentry, -, hkey⟩ | ⟨entry, hentry, -, hkey⟩)
    · exact .inl ⟨entry, hentry, hkey⟩
    · exact .inr ⟨entry, hentry, hkey⟩
  have hle := (Set.ncard_le_ncard hsubset (hfirst.union hsecond)).trans (Set.ncard_union_le _ _)
  rw [List.length_zipIdx] at hfirstle hsecondle
  omega

variable (pyStr F) in
/-- The strays of the two metrics that need not be shares are outnumbered. -/
structure StraysCovered (rows : List (Row α)) : Prop where
  episodes : Covers (startedEpisodes pyStr rows) (locallyClosedEpisodes pyStr F rows)
  overrides : Covers (reviewedProposals pyStr rows) (overriddenProposals pyStr rows)

/-- What the five shares of a log are ratios of. -/
lemma computeConversationMetrics_ratios {percentile : List (PyFloat α) → ℕ → Option (PyFloat α)}
    {rows : List (PyVal α)} {m : ConversationBenchMetrics α}
    (h : computeConversationMetrics F pyStr percentile rows = .ok m) :
    ∃ closed started overrides reviewed resolved deadlocks violated evaluable unknown,
      (startedEpisodes pyStr (materialized rows)).Finite ∧
      (startedEpisodes pyStr (materialized rows)).ncard = started ∧
      (locallyClosedEpisodes pyStr F (materialized rows)).Finite ∧
      (locallyClosedEpisodes pyStr F (materialized rows)).ncard = closed ∧
      commanderOverrideCounts pyStr (materialized rows) = .ok (overrides, reviewed) ∧
      resolved ≤ deadlocks ∧ violated ≤ evaluable ∧
      ratio F closed started = .ok m.autonomyRatio ∧
      ratio F overrides reviewed = .ok m.commanderOverrideRate ∧
      ratio F resolved deadlocks = .ok m.localResolutionRate ∧
      ratio F violated evaluable = .ok m.contractViolationRate ∧
      ratio F unknown (evaluable + unknown) = .ok m.contractUnknownRate := by
  obtain ⟨starts, hstarts, h⟩ := exceptBind_eq_ok.mp h
  obtain ⟨closes, hcloses, h⟩ := exceptBind_eq_ok.mp h
  obtain ⟨closed, hclosed, h⟩ := exceptBind_eq_ok.mp h
  obtain ⟨latencies, -, h⟩ := exceptBind_eq_ok.mp h
  obtain ⟨resolved, hresolved, h⟩ := exceptBind_eq_ok.mp h
  obtain ⟨⟨overrides, reviewed⟩, hcounts, h⟩ := exceptBind_eq_ok.mp h
  obtain ⟨⟨communicated, turns, tokens⟩, -, h⟩ := exceptBind_eq_ok.mp h
  obtain ⟨⟨violated, evaluable, unknown⟩, hcontracts, h⟩ := exceptBind_eq_ok.mp h
  obtain ⟨margins, -, h⟩ := exceptBind_eq_ok.mp h
  obtain ⟨autonomyRatio, hautonomy, h⟩ := exceptBind_eq_ok.mp h
  obtain ⟨overrideRate, hoverride, h⟩ := exceptBind_eq_ok.mp h
  obtain ⟨resolutionRate, hresolution, h⟩ := exceptBind_eq_ok.mp h
  obtain ⟨perTurn, -, h⟩ := exceptBind_eq_ok.mp h
  obtain ⟨perToken, -, h⟩ := exceptBind_eq_ok.mp h
  obtain ⟨violationRate, hviolation, h⟩ := exceptBind_eq_ok.mp h
  obtain ⟨unknownRate, hunknown, h⟩ := exceptBind_eq_ok.mp h
  obtain rfl := Except.ok.inj h
  obtain ⟨hstartedfin, hstarted⟩ := ncard_startedEpisodes hstarts
  obtain ⟨hclosedfin, hclosedcard⟩ := ncard_locallyClosedEpisodes hcloses hclosed
  have hpart : resolved ≤ (deadlockIds starts).length := by
    rw [countM_eq_ok hresolved]
    exact List.countP_le_length
  exact ⟨closed, starts.entries.length, overrides, reviewed, resolved, (deadlockIds starts).length,
    violated, evaluable, unknown, hstartedfin, hstarted, hclosedfin, hclosedcard, hcounts, hpart,
    violated_le_evaluable hcontracts, hautonomy, hoverride, hresolution, hviolation, hunknown⟩

end Main

/-! ## Two logs -/

section Logs

/-- A row of the log of task lifecycles about an episode. -/
def lifecycleRow (eventType episode : String) : PyVal ℚ :=
  .dict [("record_type", .str "task_lifecycle"), ("event_type", .str eventType),
    ("episode_id", .str episode)]

/-- A log in which the one agreement is created and executed. -/
def agreementRows : List (PyVal ℚ) :=
  [lifecycleRow "local_agreement_created" "episode-1",
    lifecycleRow "local_agreement_executed" "episode-1"]

/-- The same log with the end of an agreement whose beginning is missing, one review, and two
overrides of proposals that were not reviewed. -/
def strayRows : List (PyVal ℚ) :=
  agreementRows ++
    [lifecycleRow "local_agreement_executed" "episode-2",
      .dict [("record_type", .str "commander_review"), ("proposal_id", .str "proposal-1"),
        ("verdict", .str "approve")],
      .dict [("event_type", .str "commander_override"), ("proposal_id", .str "proposal-2")],
      .dict [("event_type", .str "commander_override"), ("proposal_id", .str "proposal-3")]]

/-- The metrics of a log, in exact arithmetic; its texts are all strings. -/
def exactMetrics (rows : List (PyVal ℚ)) : Except PyErr (ConversationBenchMetrics ℚ) :=
  computeConversationMetrics (FloatFormat.exact ℚ) (fun _ => .error .valueError)
    (fun _ _ => none) rows

lemma resolves_exact (bound : ℕ) : Resolves (FloatFormat.exact ℚ) bound := by
  intro n d _ hd hlt
  have hpos : (0 : ℚ) < d := by exact_mod_cast hd
  have hcast : (d : ℚ) < n := by exact_mod_cast hlt
  exact (one_lt_div hpos).mpr hcast

end Logs

end ConversationMetrics

end MiniatureWarehouse
