import MiniatureWarehouse.Mcp.GenCheck
import Mathlib.Algebra.Order.Field.Rat

/-!
# At most one execution of a command

A command is identified by its generation and its idempotency key.  Two mechanisms keep it from
being executed twice: while the key is remembered a replay is a duplicate, and once the published
generation has passed that of the command a replay is stale.  The file forgets a key when an
accepted call is more than a window of generations younger, so the two mechanisms overlap as long
as only keys of past generations are forgotten.

They need not be.  A call may carry a generation that is not published yet, and it is that
generation the eviction is measured from.  This file proves that replays are refused in every
run in which no accepted call evicts a key that is still of the current generation or a later
one, and that each eviction of such a key lets its command be executed a second time.
-/

namespace MiniatureWarehouse

namespace AtMostOnce

/-- The calls that touch the two stores: a publication, and a check of a keyed command. -/
inductive Call
  | set (gen : ℤ)
  | check (gen : ℤ) (key : String)
  deriving DecidableEq, Repr

/-- The generation a call publishes, if it does. -/
def Call.published? : Call → Option ℤ
  | .set gen => some gen
  | .check _ _ => none

/-! ## What the file remembers -/

section File

variable {α : Type*}

/-- The file remembers the key, under this generation. -/
def Remembers (s : Stores α) (key : String) (gen : ℤ) : Prop :=
  ∃ d, s.idempotency.load = .ok d ∧ d.get? key = some (.int gen)

/-- The key can be consumed: the file is readable and does not contain it. -/
def Free (s : Stores α) (key : String) : Prop :=
  ∃ d, s.idempotency.load = .ok d ∧ d.get? key = none

/-- A file this store wrote itself: every remembered value is a generation. -/
def Wellformed (s : Stores α) : Prop :=
  ∃ d, s.idempotency.load = .ok d ∧ ∀ e ∈ d.entries, ∃ g : ℤ, e.2 = .int g

lemma Remembers.not_free {s : Stores α} {key : String} {gen : ℤ} (h : Remembers s key gen) :
    ¬ Free s key := by
  rintro ⟨d, hd, hnone⟩
  obtain ⟨d', hd', hsome⟩ := h
  obtain rfl : d = d' := by simpa using hd.symm.trans hd'
  simp [hnone] at hsome

lemma Remembers.unique {s : Stores α} {key : String} {gen gen' : ℤ} (h : Remembers s key gen)
    (h' : Remembers s key gen') : gen = gen' := by
  obtain ⟨d, hd, hk⟩ := h
  obtain ⟨d', hd', hk'⟩ := h'
  obtain rfl : d = d' := by simpa using hd.symm.trans hd'
  simpa using hk.symm.trans hk'

end File

/-! ## The run of the stores -/

section Run

variable {α : Type*} [Field α] [LinearOrder α] [IsStrictOrderedRing α]
  (F : FloatFormat α) (reprFloat : PyFloat α → String) (window : ℕ)

/-- The stores as a machine; an accepted check puts out its command. -/
def machine : Machine (Stores α) Call (Option (ℤ × String)) where
  step s
    | .set gen => ({ s with gen := some gen }, none)
    | .check gen key =>
      let (s', result) := s.check F reprFloat window (.int gen) (.str key)
      (s', match result with
        | .ok r => if r.ok then some (gen, key) else none
        | .error _ => none)

/-- The commands accepted in a run, in order. -/
def accepted (s : Stores α) (es : List Call) : List (ℤ × String) :=
  (machine F reprFloat window).emitted s es

variable {F reprFloat window}

variable (F reprFloat window) in
/-- A check that is not accepted changes nothing. -/
lemma check_refused {s : Stores α} (hwf : Wellformed s) {gen : ℤ} {key : String}
    (h : gen < s.curGen ∨ ¬ Free s key) :
    (machine F reprFloat window).step s (.check gen key) = (s, none) := by
  obtain ⟨d, hd, hints⟩ := hwf
  simp only [machine, Stores.check, isStale, PyVal.toNum?, PyNum.lt_int_int]
  by_cases hstale : gen < s.curGen
  · simp [hstale, GenCheckResult.ok]
  · have hin : d.contains key = true := by
      rw [Dict.contains, Option.isSome_iff_ne_none]
      exact fun hnone => h.resolve_left hstale ⟨d, hd, hnone⟩
    simp [hstale, StoreFile.checkAndAdd, hd, keyIn, hin, Except.map, GenCheckResult.ok]

/-- The remembered entries after an accepted check. -/
def keep (window : ℕ) (d : Dict String (PyVal α)) (gen : ℤ) (key : String) :
    Dict String (PyVal α) :=
  (d.filter fun _ v => keptAt (.int (gen - window)) v).set key (.int gen)

variable (F reprFloat window) in
/-- An accepted check puts out its command, drops what the window no longer holds, and
remembers its own key. -/
lemma check_accepted {s : Stores α} {d : Dict String (PyVal α)}
    (hd : s.idempotency.load = .ok d) (hints : ∀ e ∈ d.entries, ∃ g : ℤ, e.2 = .int g)
    {gen : ℤ} {key : String} (hgen : s.curGen ≤ gen) (hfree : d.get? key = none) :
    (machine F reprFloat window).step s (.check gen key) =
      ({ s with idempotency := .object (keep window d gen key) }, some (gen, key)) := by
  have hall : allNumbers d = true := by
    rw [allNumbers, List.all_eq_true]
    intro e he
    obtain ⟨g, hg⟩ := hints e he
    simp [hg, PyVal.toNum?]
  have hself : keptAt (.int (gen - window) : PyNum α) (.int gen) = true := by
    simp [keptAt, PyVal.toNum?]
  have hin : d.contains key = false := by simp [Dict.contains, hfree]
  simp [machine, Stores.check, isStale, PyVal.toNum?, not_lt.mpr hgen, StoreFile.checkAndAdd, hd,
    keyIn, hin, hall, PyNum.subInt, hself, Except.map, GenCheckResult.ok, keep, keyText]

/-- What is remembered after an accepted check: its own key, and the older keys in the window. -/
lemma get?_keep {d : Dict String (PyVal α)} {gen g : ℤ} {key k : String}
    (hfree : d.get? key = none) :
    (keep window d gen key).get? k = some (.int g) ↔
      (k = key ∧ g = gen) ∨ (d.get? k = some (.int g) ∧ gen - window ≤ g) := by
  rw [keep, Dict.get?_set]
  by_cases hk : k = key
  · subst hk
    simp [hfree, eq_comm]
  · rw [if_neg hk, Dict.get?_filter, Option.filter_eq_some_iff]
    simp [hk, keptAt, PyVal.toNum?]

omit [IsStrictOrderedRing α] in
lemma keep_ints {d : Dict String (PyVal α)} (hints : ∀ e ∈ d.entries, ∃ g : ℤ, e.2 = .int g)
    {gen : ℤ} {key : String} :
    ∀ e ∈ (keep window d gen key).entries, ∃ g : ℤ, e.2 = .int g := by
  rintro ⟨k, v⟩ he
  have hv := (keep window d gen key).mem_entries_iff.mp he
  rw [keep, Dict.get?_set] at hv
  split_ifs at hv with hk
  · exact ⟨gen, (Option.some.inj hv).symm⟩
  · rw [Dict.get?_filter, Option.filter_eq_some_iff] at hv
    exact hints _ (d.mem_entries_iff.mpr hv.1)

/-! ## The invariant -/

/-- The published generation has passed this one, so a call that carries it is stale. -/
def Passed (s : Stores α) (gen : ℤ) : Prop := ∃ cur, s.gen = some cur ∧ gen < cur

/-- What relates the stores to the commands accepted so far, in every run. -/
structure Tracks (log : List (ℤ × String)) (s : Stores α) : Prop where
  wellformed : Wellformed s
  remembered : ∀ key gen, Remembers s key gen → (gen, key) ∈ log
  unpublished : s.gen = none → ∀ c ∈ log, 0 ≤ c.1

/-- What relates them while no live key was evicted: an accepted command is remembered or its
generation has passed. -/
structure Guards (log : List (ℤ × String)) (s : Stores α) : Prop extends Tracks log s where
  nodup : log.Nodup
  covered : ∀ c ∈ log, Remembers s c.2 c.1 ∨ Passed s c.1

variable (window) in
/-- An accepted check evicts no key that is still of the current generation or a later one. -/
def EvictsNothingLive (s : Stores α) : Call → Prop
  | .set _ => True
  | .check gen key =>
    s.curGen ≤ gen → Free s key →
      ∀ key' gen', Remembers s key' gen' → s.curGen ≤ gen' → gen - window ≤ gen'

variable (window) in
omit [Field α] [LinearOrder α] [IsStrictOrderedRing α] in
/-- A call at most a window ahead of the published generation evicts nothing live. -/
lemma evictsNothingLive_of_le {s : Stores α} {e : Call}
    (h : ∀ gen key, e = .check gen key → gen ≤ s.curGen + window) :
    EvictsNothingLive window s e := by
  cases e with
  | set gen => trivial
  | check gen key =>
    intro _ _ key' gen' _ hlive
    have hle := h gen key rfl
    omega

/-- Publications do not go back behind what is published. -/
def Ascends (s : Stores α) (es : List Call) : Prop :=
  (es.filterMap Call.published?).Pairwise (· ≤ ·) ∧
    ∀ cur, s.gen = some cur → ∀ g ∈ es.filterMap Call.published?, cur ≤ g

omit [Field α] [LinearOrder α] [IsStrictOrderedRing α] in
lemma tracks_empty : Tracks [] (Stores.empty : Stores α) where
  wellformed := ⟨.empty, rfl, by simp [Dict.empty]⟩
  remembered := by
    rintro key gen ⟨d, hd, hk⟩
    obtain rfl : Dict.empty = d := by simpa [Stores.empty, StoreFile.load] using hd
    simp at hk
  unpublished := by simp

omit [Field α] [LinearOrder α] [IsStrictOrderedRing α] in
lemma guards_empty : Guards [] (Stores.empty : Stores α) where
  toTracks := tracks_empty
  nodup := List.nodup_nil
  covered := by simp

omit [Field α] [LinearOrder α] [IsStrictOrderedRing α] in
lemma Ascends.tail_check {s s' : Stores α} {gen : ℤ} {key : String} {es : List Call}
    (h : Ascends s (.check gen key :: es)) (hs : s'.gen = s.gen) : Ascends s' es := by
  obtain ⟨hpair, hcur⟩ := h
  rw [List.filterMap_cons_none rfl] at hpair hcur
  exact ⟨hpair, fun cur hc => hcur cur (hs ▸ hc)⟩

omit [Field α] [LinearOrder α] [IsStrictOrderedRing α] in
lemma Ascends.tail_set {s : Stores α} {gen : ℤ} {es : List Call}
    (h : Ascends s (.set gen :: es)) :
    (∀ cur, s.gen = some cur → cur ≤ gen) ∧ Ascends { s with gen := some gen } es := by
  obtain ⟨hpair, hcur⟩ := h
  have hcons : (Call.set gen :: es).filterMap Call.published? =
      gen :: es.filterMap Call.published? := rfl
  rw [hcons] at hpair hcur
  rw [List.pairwise_cons] at hpair
  refine ⟨fun cur hc => hcur cur hc gen (by simp), hpair.2, ?_⟩
  rintro cur ⟨⟩ g hg
  exact hpair.1 g hg

variable (F reprFloat window) in
/-- A step of the stores, as the invariants see it. -/
lemma step_cases (s : Stores α) (hwf : Wellformed s) (e : Call) :
    (∃ gen, e = .set gen ∧
        (machine F reprFloat window).step s e = ({ s with gen := some gen }, none)) ∨
      (∃ gen key, e = .check gen key ∧ (gen < s.curGen ∨ ¬ Free s key) ∧
        (machine F reprFloat window).step s e = (s, none)) ∨
      ∃ gen key d, e = .check gen key ∧ s.curGen ≤ gen ∧ s.idempotency.load = .ok d ∧
        d.get? key = none ∧ (∀ e ∈ d.entries, ∃ g : ℤ, e.2 = .int g) ∧
        (machine F reprFloat window).step s e =
          ({ s with idempotency := .object (keep window d gen key) }, some (gen, key)) := by
  cases e with
  | set gen => exact .inl ⟨gen, rfl, rfl⟩
  | check gen key =>
    by_cases h : gen < s.curGen ∨ ¬ Free s key
    · exact .inr (.inl ⟨gen, key, rfl, h, check_refused F reprFloat window hwf h⟩)
    · push Not at h
      obtain ⟨hgen, d', hd', hfree⟩ := h
      obtain ⟨d, hd, hints⟩ := hwf
      obtain rfl : d = d' := by simpa using hd.symm.trans hd'
      exact .inr (.inr ⟨gen, key, d, rfl, hgen, hd, hfree, hints,
        check_accepted F reprFloat window hd hints hgen hfree⟩)

/-- What the file remembers after an accepted check. -/
lemma remembers_keep {s : Stores α} {d : Dict String (PyVal α)}
    {gen g : ℤ} {key k : String} (hd : s.idempotency.load = .ok d) (hfree : d.get? key = none) :
    Remembers { s with idempotency := .object (keep window d gen key) } k g ↔
      (k = key ∧ g = gen) ∨ (Remembers s k g ∧ gen - window ≤ g) := by
  have hold : Remembers s k g ↔ d.get? k = some (.int g) := by simp [Remembers, hd]
  have hnew : Remembers { s with idempotency := .object (keep window d gen key) } k g ↔
      (keep window d gen key).get? k = some (.int g) := by simp [Remembers, StoreFile.load]
  rw [hold, hnew]
  exact get?_keep hfree

variable (F reprFloat window) in
/-- Every step keeps the log and the stores in step. -/
lemma Tracks.step {log : List (ℤ × String)} {s : Stores α} (h : Tracks log s) (e : Call) :
    Tracks (log ++ ((machine F reprFloat window).step s e).2.toList)
      ((machine F reprFloat window).step s e).1 := by
  rcases step_cases F reprFloat window s h.wellformed e with
    ⟨gen, rfl, hstep⟩ | ⟨gen, key, rfl, -, hstep⟩ | ⟨gen, key, d, rfl, hgen, hd, hfree, hints, hstep⟩
  · rw [hstep]
    refine ⟨h.wellformed, fun k g hk => ?_, by simp⟩
    simpa using h.remembered k g hk
  · rw [hstep]
    simpa using h
  · rw [hstep]
    refine ⟨⟨_, rfl, keep_ints hints⟩, fun k g hk => ?_, fun hnone c hc => ?_⟩
    · rcases (remembers_keep hd hfree).mp hk with ⟨rfl, rfl⟩ | ⟨hold, -⟩
      · simp
      · simpa using .inl (h.remembered k g hold)
    · rcases List.mem_append.mp hc with hold | hnew
      · exact h.unpublished hnone c hold
      · obtain rfl : c = (gen, key) := by simpa using hnew
        have hcur : s.curGen = 0 := by simpa [Stores.curGen] using congrArg (Option.getD · 0) hnone
        exact hcur ▸ hgen

variable (F reprFloat window) in
/-- A step that evicts nothing live keeps every accepted command covered. -/
lemma Guards.step {log : List (ℤ × String)} {s : Stores α} (h : Guards log s) {e : Call}
    (hset : ∀ gen, e = .set gen → ∀ cur, s.gen = some cur → cur ≤ gen) :
    (log ++ ((machine F reprFloat window).step s e).2.toList).Nodup ∧
      (EvictsNothingLive window s e →
        Guards (log ++ ((machine F reprFloat window).step s e).2.toList)
          ((machine F reprFloat window).step s e).1) := by
  have htracks := h.toTracks.step F reprFloat window e
  rcases step_cases F reprFloat window s h.wellformed e with
    ⟨gen, rfl, hstep⟩ | ⟨gen, key, rfl, -, hstep⟩ | ⟨gen, key, d, rfl, hgen, hd, hfree, hints, hstep⟩
  · rw [hstep] at htracks ⊢
    simp only [Option.toList_none, List.append_nil] at htracks ⊢
    refine ⟨h.nodup, fun _ => ⟨htracks, h.nodup, fun c hc => ?_⟩⟩
    -- a publication only moves the published generation up
    refine (h.covered c hc).imp_right ?_
    rintro ⟨cur, hcur, hlt⟩
    exact ⟨gen, rfl, hlt.trans_le (hset gen rfl cur hcur)⟩
  · rw [hstep] at htracks ⊢
    simpa using ⟨h.nodup, fun _ => h⟩
  · have hnot : (gen, key) ∉ log := by
      intro hmem
      rcases h.covered _ hmem with hrem | ⟨cur, hcur, hlt⟩
      · exact hrem.not_free ⟨d, hd, hfree⟩
      · have : s.curGen = cur := by simp [Stores.curGen, hcur]
        omega
    rw [hstep] at htracks ⊢
    have hnodup : (log ++ [(gen, key)]).Nodup := by
      rw [List.nodup_append]
      refine ⟨h.nodup, List.nodup_singleton _, ?_⟩
      rintro a ha b hb rfl
      exact hnot (List.mem_singleton.mp hb ▸ ha)
    refine ⟨hnodup, fun hlive => ⟨htracks, hnodup, fun c hc => ?_⟩⟩
    rcases List.mem_append.mp hc with hold | hnew
    · rcases h.covered c hold with hrem | hpassed
      · by_cases hkept : gen - window ≤ c.1
        · exact .inl ((remembers_keep hd hfree).mpr (.inr ⟨hrem, hkept⟩))
        · -- the key is evicted now, so its generation is behind the published one
          have hbehind : c.1 < s.curGen := by
            by_contra hge
            exact hkept (hlive hgen ⟨d, hd, hfree⟩ _ _ hrem (not_lt.mp hge))
          cases hs : s.gen with
          | none =>
            have hpos := h.unpublished hs c hold
            have hzero : s.curGen = 0 := by simp [Stores.curGen, hs]
            omega
          | some cur =>
            have hcur : s.curGen = cur := by simp [Stores.curGen, hs]
            exact .inr ⟨cur, rfl, hcur ▸ hbehind⟩
      · exact .inr hpassed
    · obtain rfl : c = (gen, key) := by simpa using hnew
      exact .inl ((remembers_keep hd hfree).mpr (.inl ⟨rfl, rfl⟩))

/-! ## Whole runs -/

variable (F reprFloat window) in
lemma Tracks.run {log : List (ℤ × String)} {s : Stores α} (h : Tracks log s) (es : List Call) :
    Tracks (log ++ accepted F reprFloat window s es) ((machine F reprFloat window).run s es) := by
  induction es generalizing log s with
  | nil => simpa [accepted] using h
  | cons e es ih =>
    rw [accepted, Machine.emitted_cons, ← List.append_assoc]
    exact ih (h.step F reprFloat window e)

lemma Guards.run {log : List (ℤ × String)} {s : Stores α} (h : Guards log s) {es : List Call}
    (hasc : Ascends s es)
    (hlive : (machine F reprFloat window).AllSteps (EvictsNothingLive window) s es) :
    Guards (log ++ accepted F reprFloat window s es) ((machine F reprFloat window).run s es) := by
  induction es generalizing log s with
  | nil => simpa [accepted] using h
  | cons e es ih =>
    rw [accepted, Machine.emitted_cons, ← List.append_assoc]
    cases e with
    | set gen =>
      obtain ⟨hle, htail⟩ := hasc.tail_set
      have hset : ∀ g, Call.set gen = .set g → ∀ cur, s.gen = some cur → cur ≤ g := by
        rintro g ⟨⟩
        exact hle
      exact ih ((h.step F reprFloat window hset).2 hlive.1) htail hlive.2
    | check gen key =>
      have hset : ∀ g, Call.check gen key = .set g → ∀ cur, s.gen = some cur → cur ≤ g := by
        rintro g ⟨⟩
      have hgen : ((machine F reprFloat window).step s (.check gen key)).1.gen = s.gen := by
        rcases step_cases F reprFloat window s h.wellformed
          (.check gen key) with ⟨g, hg, -⟩ | ⟨_, _, _, _, hstep⟩ | ⟨_, _, _, _, _, _, _, _, hstep⟩
        · cases hg
        · rw [hstep]
        · rw [hstep]
      exact ih ((h.step F reprFloat window hset).2 hlive.1) (hasc.tail_check hgen) hlive.2

/-- A live key that an accepted check evicts can be consumed again. -/
lemma replay_accepted {s : Stores α} (hwf : Wellformed s) {gen gen' : ℤ} {key key' : String}
    (hgen : s.curGen ≤ gen) (hfree : Free s key) (hrem : Remembers s key' gen')
    (hlive : s.curGen ≤ gen') (hout : gen' < gen - window) :
    accepted F reprFloat window s [.check gen key, .check gen' key'] =
      [(gen, key), (gen', key')] := by
  obtain ⟨d', hd', hnone⟩ := hfree
  obtain ⟨d, hd, hints⟩ := hwf
  obtain rfl : d = d' := by simpa using hd.symm.trans hd'
  have hfirst := check_accepted F reprFloat window hd hints hgen hnone
  -- the key is gone from the file, so the second check finds it free
  have hgone : (keep window d gen key).get? key' = none := by
    cases hk : (keep window d gen key).get? key' with
    | none => rfl
    | some v =>
      obtain ⟨g, rfl⟩ := keep_ints hints _ ((keep window d gen key).mem_entries_iff.mpr hk)
      rcases (get?_keep hnone).mp hk with ⟨rfl, -⟩ | ⟨hold, hle⟩
      · exact absurd ⟨d, hd, hnone⟩ hrem.not_free
      · have hg : gen' = g := hrem.unique ⟨d, hd, hold⟩
        omega
  have hsecond := check_accepted F reprFloat window
    (s := { s with idempotency := .object (keep window d gen key) }) rfl (keep_ints hints)
    hlive hgone
  rw [accepted, Machine.emitted_cons, hfirst, Machine.emitted_singleton, hsecond]
  rfl

variable (F reprFloat window) in
/-- **When a command is executed at most once.**  For every run from empty stores whose
publications do not decrease: if no accepted check evicts a key that is still of the current
generation or a later one, the accepted commands are pairwise distinct.  The condition is exact:
it holds if and only if the commands stay distinct when any one check is replayed at any moment
of the run. -/
theorem accepted_once_iff (es : List Call)
    (hmono : (es.filterMap Call.published?).Pairwise (· ≤ ·)) :
    ((machine F reprFloat window).AllSteps (EvictsNothingLive window) .empty es →
        (accepted F reprFloat window .empty es).Nodup) ∧
      ((∀ pre post gen key, es = pre ++ post →
          (accepted F reprFloat window .empty (pre ++ [.check gen key])).Nodup) ↔
        (machine F reprFloat window).AllSteps (EvictsNothingLive window) .empty es) := by
  have hasc : Ascends (Stores.empty : Stores α) es := ⟨hmono, by rintro cur ⟨⟩⟩
  refine ⟨fun hlive => ?_, fun hnodup => ?_, ?_⟩
  · simpa using (guards_empty.run hasc hlive).nodup
  · rw [Machine.allSteps_iff]
    rintro pre e post rfl
    cases e with
    | set gen => trivial
    | check gen key =>
      intro hgen hfree key' gen' hrem hlive
      by_contra hout
      have htracks := tracks_empty.run F reprFloat window pre
      have hmem : (gen', key') ∈ accepted F reprFloat window .empty pre := by
        simpa using htracks.remembered key' gen' hrem
      have htwice := hnodup (pre ++ [.check gen key]) post gen' key' (by simp)
      rw [List.append_assoc, accepted, Machine.emitted_append, List.singleton_append,
        ← accepted, ← accepted,
        replay_accepted htracks.wellformed hgen hfree hrem hlive (not_le.mp hout)] at htwice
      have hdisjoint := (List.nodup_append.mp htwice).2.2
      exact hdisjoint _ hmem (gen', key') (by simp) rfl
  · rintro hlive pre post gen key rfl
    have hpre := ((machine F reprFloat window).allSteps_append _ _ pre post).mp hlive
    have hascPre : Ascends (Stores.empty : Stores α) pre := by
      refine ⟨?_, by rintro cur ⟨⟩⟩
      rw [List.filterMap_append, List.pairwise_append] at hmono
      exact hmono.1
    have hguards := guards_empty.run hascPre hpre.1
    have hset : ∀ g, Call.check gen key = .set g →
        ∀ cur, ((machine F reprFloat window).run .empty pre).gen = some cur → cur ≤ g := by
      rintro g ⟨⟩
    rw [accepted, Machine.emitted_append, Machine.emitted_singleton]
    have hnodup := (hguards.step F reprFloat window hset).1
    simpa [accepted] using hnodup

end Run

/-! ## A replay that is accepted -/

/-- Generation 5 is published; a call of generation 100 arrives before its publication. -/
def futureCall : List Call :=
  [.set 5, .check 5 "move-bot1", .check 100 "move-bot2", .check 5 "move-bot1"]

/-- **A call of a future generation lets an older command be executed twice.** -/
theorem future_call_replays :
    accepted (.exact ℚ) (fun _ => "") idempotencyWindowGens .empty futureCall =
      [(5, "move-bot1"), (100, "move-bot2"), (5, "move-bot1")] := by
  decide +kernel

/-- The result at a run whose generations stay within the window. -/
theorem accepted_once_iff_window :
    (accepted (.exact ℚ) (fun _ => "") idempotencyWindowGens .empty
      [.set 5, .check 5 "a", .check 5 "a"]).Nodup := by
  refine (accepted_once_iff (.exact ℚ) (fun _ => "") idempotencyWindowGens _ ?_).1 ?_
  · decide
  · refine Machine.AllSteps.imp _ (C := fun s e => e = .set 5 ∨ 5 ≤ s.curGen ∧ e = .check 5 "a")
      (fun s e h => evictsNothingLive_of_le _ ?_) (by decide +kernel)
    rintro gen key rfl
    obtain ⟨hcur, ⟨⟩⟩ := h.resolve_left nofun
    omega

end AtMostOnce

end MiniatureWarehouse
