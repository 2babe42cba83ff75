import MiniatureWarehouse.Safety.HealthReports
import Mathlib.Data.Finset.Card

/-!
# Frozen evidence under re-delivered frames

A repeat with an old stamp is meant to be a re-delivery of a message that was already counted,
so it should add no evidence of a frozen sensor.  The monitor judges a stamp against the message
received just before it and forgets all earlier ones, so two old frames that are re-delivered in
turn advance over each other.

The evidence a stream really holds is the number of different stamps under which the current
content has been received since it last changed (`runStamps`).  This file determines exactly
when the run never counts more than that and when a frame received before never adds to it: when
no repeat the monitor counts is such a frame.
-/

namespace MiniatureWarehouse

namespace SensorHealthMonitor

/-! ## The evidence of a stream -/

section Evidence

variable {α : Type*}

/-- The current content with its stamps, one message later. -/
def stampStep (s : Option String × List (PyFloat α)) (o : SourceObservation α) :
    Option String × List (PyFloat α) :=
  if o.digest = none then s
  else if s.1 = o.digest then (s.1, s.2 ++ [o.stampS])
  else (o.digest, [o.stampS])

/-- The stamps under which the current content was received since the content last changed. -/
def runStamps (obs : List (SourceObservation α)) : List (PyFloat α) :=
  (obs.foldl stampStep (none, [])).2

lemma foldl_stampStep_fst (obs : List (SourceObservation α)) :
    (obs.foldl stampStep (none, [])).1 = lastDigest obs := by
  induction obs using List.reverseRecOn with
  | nil => rfl
  | append_singleton obs o ih =>
    rw [List.foldl_concat, lastDigest_concat, stampStep]
    by_cases hd : o.digest = none
    · rw [if_pos hd, hd, Option.none_or, ih]
    · obtain ⟨d, hsome⟩ := Option.ne_none_iff_exists'.mp hd
      rw [if_neg hd, hsome, Option.some_or]
      split_ifs with hsame
      · exact hsame
      · rfl

/-- A message without a fingerprint adds nothing. -/
lemma runStamps_concat_none (obs : List (SourceObservation α)) {o : SourceObservation α}
    (h : o.digest = none) : runStamps (obs ++ [o]) = runStamps obs := by
  unfold runStamps
  rw [List.foldl_concat, stampStep, if_pos h]

/-- A repeat of the current content adds its stamp. -/
lemma runStamps_concat_repeat (obs : List (SourceObservation α)) {o : SourceObservation α}
    (hd : o.digest ≠ none) (h : lastDigest obs = o.digest) :
    runStamps (obs ++ [o]) = runStamps obs ++ [o.stampS] := by
  unfold runStamps
  rw [List.foldl_concat, stampStep, if_neg hd, if_pos (by rw [foldl_stampStep_fst, h])]

/-- New content starts over. -/
lemma runStamps_concat_new (obs : List (SourceObservation α)) {o : SourceObservation α}
    (hd : o.digest ≠ none) (h : lastDigest obs ≠ o.digest) :
    runStamps (obs ++ [o]) = [o.stampS] := by
  unfold runStamps
  rw [List.foldl_concat, stampStep, if_neg hd, if_neg (by rwa [foldl_stampStep_fst])]

/-- Every stamp of the current content belongs to a message of the stream with that content. -/
lemma exists_of_mem_runStamps {obs : List (SourceObservation α)} {t : PyFloat α}
    (h : t ∈ runStamps obs) : ∃ o ∈ obs, o.digest = lastDigest obs ∧ o.stampS = t := by
  induction obs using List.reverseRecOn with
  | nil => simp [runStamps] at h
  | append_singleton obs o ih =>
    have hlast := lastDigest_concat obs o
    by_cases hd : o.digest = none
    · rw [runStamps_concat_none obs hd] at h
      obtain ⟨o', hmem, hdigest, hstamp⟩ := ih h
      rw [hd, Option.none_or] at hlast
      exact ⟨o', List.mem_append_left _ hmem, hdigest.trans hlast.symm, hstamp⟩
    · have hlast' : lastDigest (obs ++ [o]) = o.digest := by
        obtain ⟨d, hsome⟩ := Option.ne_none_iff_exists'.mp hd
        rw [hlast, hsome, Option.some_or]
      by_cases hsame : lastDigest obs = o.digest
      · rw [runStamps_concat_repeat obs hd hsame, List.mem_append, List.mem_singleton] at h
        rcases h with h | rfl
        · obtain ⟨o', hmem, hdigest, hstamp⟩ := ih h
          exact ⟨o', List.mem_append_left _ hmem, by rw [hdigest, hsame, hlast'], hstamp⟩
        · exact ⟨o, by simp, hlast'.symm, rfl⟩
      · rw [runStamps_concat_new obs hd hsame, List.mem_singleton] at h
        exact ⟨o, by simp, hlast'.symm, h.symm⟩

/-- A repeat under a stamp the current content did not have is one more piece of evidence. -/
lemma card_runStamps_concat [DecidableEq α] (obs : List (SourceObservation α))
    {o : SourceObservation α} (hd : o.digest ≠ none) (h : lastDigest obs = o.digest)
    (hstamp : o.stampS ∉ runStamps obs) :
    (runStamps (obs ++ [o])).toFinset.card = (runStamps obs).toFinset.card + 1 := by
  have hnew : o.stampS ∉ (runStamps obs).toFinset := fun hmem => hstamp (List.mem_toFinset.mp hmem)
  rw [runStamps_concat_repeat obs hd h, List.toFinset_append, List.toFinset_cons,
    List.toFinset_nil, insert_empty_eq,
    Finset.card_union_of_disjoint (Finset.disjoint_singleton_right.mpr hnew),
    Finset.card_singleton]

/-- As long as the content stays, no evidence is lost. -/
lemma card_runStamps_le_concat [DecidableEq α] (obs : List (SourceObservation α))
    {o : SourceObservation α} (h : o.digest = none ∨ lastDigest obs = o.digest) :
    (runStamps obs).toFinset.card ≤ (runStamps (obs ++ [o])).toFinset.card := by
  apply Finset.card_le_card
  by_cases hd : o.digest = none
  · rw [runStamps_concat_none obs hd]
  · rw [runStamps_concat_repeat obs hd (h.resolve_left hd), List.toFinset_append]
    exact Finset.subset_union_left

/-- The frame, content and stamp, was received before. -/
def Redelivered (past : List (SourceObservation α)) (o : SourceObservation α) : Prop :=
  ∃ o' ∈ past, o'.digest = o.digest ∧ o'.stampS = o.stampS

end Evidence

/-! ## What the monitor counts -/

section Count

variable {α : Type*} [Field α] [LinearOrder α]

/-- A repeat of the current content whose stamp advances over the message just before it. -/
def CountedRepeat (past : List (SourceObservation α)) (o : SourceObservation α) : Prop :=
  o.digest ≠ none ∧ lastDigest past = o.digest ∧ stampAdvanced past.getLast? o = true

section Declared

variable {thresholds : Dict String (SourceThresholds α)} {source : String}
  (hdecl : thresholds.contains source = true)

include hdecl

/-- What one message does to the counter: a counted repeat adds one, new content restarts it,
anything else leaves it alone. -/
lemma frozenRun_concat_cases (p : List (SourceObservation α)) (o : SourceObservation α) :
    (CountedRepeat p o ∧
        (((init thresholds).feed source (p ++ [o])).frozenRun source).2 =
          (((init thresholds).feed source p).frozenRun source).2 + 1) ∨
      ((o.digest ≠ none ∧ lastDigest p ≠ o.digest) ∧
        (((init thresholds).feed source (p ++ [o])).frozenRun source).2 = 1) ∨
      ((o.digest = none ∨ lastDigest p = o.digest) ∧ ¬ CountedRepeat p o ∧
        (((init thresholds).feed source (p ++ [o])).frozenRun source).2 =
          (((init thresholds).feed source p).frozenRun source).2) := by
  have hfst := frozenRun_fst hdecl p
  rw [frozenRun_feed_concat hdecl]
  unfold CountedRepeat advance
  by_cases hd : o.digest = none
  · exact .inr (.inr ⟨.inl hd, fun h => h.1 hd, by rw [if_pos hd]⟩)
  · rw [if_neg hd, hfst]
    by_cases hsame : lastDigest p = o.digest
    · rw [if_neg (not_not.mpr hsame)]
      by_cases hadv : stampAdvanced p.getLast? o = true
      · exact .inl ⟨⟨hd, hsame, hadv⟩, by simp [hadv]⟩
      · exact .inr (.inr ⟨.inr hsame, fun h => hadv h.2.2, by simp [hadv]⟩)
    · exact .inr (.inl ⟨⟨hd, hsame⟩, by rw [if_pos hsame]⟩)

/-- Content that was identified counts at least once. -/
lemma one_le_frozenRun {p : List (SourceObservation α)} (h : lastDigest p ≠ none) :
    1 ≤ (((init thresholds).feed source p).frozenRun source).2 := by
  induction p using List.reverseRecOn with
  | nil => exact absurd rfl h
  | append_singleton p o ih =>
    have hlast := lastDigest_concat p o
    rcases frozenRun_concat_cases hdecl p o with ⟨-, hrun⟩ | ⟨-, hrun⟩ | ⟨hsame, -, hrun⟩
    · omega
    · omega
    · rw [hrun]
      apply ih
      rcases hsame with hnone | hsame
      · rwa [hlast, hnone, Option.none_or] at h
      · intro hp
        rw [hlast, ← hsame, hp] at h
        exact h rfl

/-- When no counted repeat is a frame received before, the counter stays within the evidence. -/
lemma frozenRun_le_card {p : List (SourceObservation α)}
    (hfresh : ∀ p' o q, p = p' ++ o :: q → CountedRepeat p' o → ¬ Redelivered p' o) :
    (((init thresholds).feed source p).frozenRun source).2 ≤ (runStamps p).toFinset.card := by
  induction p using List.reverseRecOn with
  | nil => exact Nat.zero_le _
  | append_singleton p o ih =>
    have hbefore := ih fun p' o' q hsplit =>
      hfresh p' o' (q ++ [o]) (by rw [hsplit, List.append_assoc, List.cons_append])
    rcases frozenRun_concat_cases hdecl p o with
      ⟨hcounted, hrun⟩ | ⟨⟨hd, hnew⟩, hrun⟩ | ⟨hsame, -, hrun⟩
    · -- a counted repeat brings a stamp the current content did not have
      have hstamp : o.stampS ∉ runStamps p := by
        intro hmem
        obtain ⟨o', hmem', hdigest, heq⟩ := exists_of_mem_runStamps hmem
        exact hfresh p o [] rfl hcounted ⟨o', hmem', hdigest.trans hcounted.2.1, heq⟩
      have hcard := card_runStamps_concat p hcounted.1 hcounted.2.1 hstamp
      omega
    · rw [hrun, runStamps_concat_new p hd hnew]
      simp
    · have hcard := card_runStamps_le_concat p hsame
      omega

end Declared

/-- The counter of a stream stays within its evidence: at every moment it is at most the number
of different stamps of the current content, and a frame received before never takes it to a
threshold of two or more repeats. -/
def RedeliveryInert (thresholds : Dict String (SourceThresholds α)) (source : String)
    (obs : List (SourceObservation α)) : Prop :=
  (∀ p q, obs = p ++ q →
      (((init thresholds).feed source p).frozenRun source).2 ≤ (runStamps p).toFinset.card) ∧
    ∀ p o q, obs = p ++ o :: q → Redelivered p o →
      ∀ repeats, 2 ≤ repeats →
        repeats ≤ (((init thresholds).feed source (p ++ [o])).frozenRun source).2 →
          repeats ≤ (((init thresholds).feed source p).frozenRun source).2

/-- **When re-deliveries are inert.**  For every stream of a declared source, the counter stays
within the evidence throughout if and only if no repeat that is counted is a frame received
before. -/
theorem redeliveryInert_iff (thresholds : Dict String (SourceThresholds α)) (source : String)
    (hdecl : thresholds.contains source = true) (obs : List (SourceObservation α)) :
    RedeliveryInert thresholds source obs ↔
      ∀ p o q, obs = p ++ o :: q → CountedRepeat p o → ¬ Redelivered p o := by
  constructor
  · rintro ⟨-, hthreshold⟩ p o q hsplit hcounted hold
    rcases frozenRun_concat_cases hdecl p o with ⟨-, hrun⟩ | ⟨hnew, -⟩ | ⟨-, huncounted, -⟩
    · -- the threshold just above the old counter is crossed by a frame received before
      have hpos : 1 ≤ (((init thresholds).feed source p).frozenRun source).2 :=
        one_le_frozenRun hdecl (hcounted.2.1 ▸ hcounted.1)
      have hcross := hthreshold p o q hsplit hold _ (Nat.succ_le_succ hpos) hrun.ge
      omega
    · exact hnew.2 hcounted.2.1
    · exact huncounted hcounted
  · intro hfresh
    refine ⟨?_, ?_⟩
    · intro p q hsplit
      apply frozenRun_le_card hdecl
      intro p' o q' hp
      exact hfresh p' o (q' ++ q) (by rw [hsplit, hp, List.append_assoc, List.cons_append])
    · intro p o q hsplit hold repeats htwo hreach
      rcases frozenRun_concat_cases hdecl p o with ⟨hcounted, -⟩ | ⟨-, hrun⟩ | ⟨-, -, hrun⟩
      · exact absurd hold (hfresh p o q hsplit hcounted)
      · omega
      · omega

/-! ## Two old frames in turn -/

/-- Three repeats make a source frozen. -/
def patientThresholds : Dict String (SourceThresholds ℚ) :=
  exampleThresholds.mapValues fun _ limits =>
    { limits with frozenRepeats := 3, two_le_frozenRepeats := by norm_num }

/-- A frame of content `A` stamped at `stamp` and received at `t`. -/
def frameOf (stamp t : ℚ) : SourceObservation ℚ := ⟨.fin stamp, .fin t, .fin 1, some "A"⟩

/-- **Two old frames raise the verdict.**  Two frames, both delivered twice: the second round
takes the counter to three repeats although the content carries two stamps, and a source that
was fine is frozen. -/
theorem redelivery_raises_frozen :
    let verdictOf (m : SensorHealthMonitor ℚ) :=
      (m.evaluate (FloatFormat.exact ℚ) (.fin 5)).2.verdicts.get? "cliff_scan"
    let once := [frameOf 1 1, frameOf 2 2]
    let twice := once ++ [frameOf 1 3, frameOf 2 4]
    verdictOf ((init patientThresholds).feed "cliff_scan" once) = some .ok ∧
      verdictOf ((init patientThresholds).feed "cliff_scan" twice) = some .frozen ∧
      (((init patientThresholds).feed "cliff_scan" twice).frozenRun "cliff_scan").2 = 3 ∧
      (runStamps twice).toFinset.card = 2 := by
  decide +kernel

/-- The criterion at a sensor that repeats itself under two stamps: both are evidence. -/
theorem redeliveryInert_iff_two_stamps :
    RedeliveryInert patientThresholds "cliff_scan" [frameOf 1 1, frameOf 2 2] := by
  refine (redeliveryInert_iff patientThresholds "cliff_scan" (by decide +kernel)
    [frameOf 1 1, frameOf 2 2]).mpr ?_
  rintro p o q hsplit - ⟨o', hmem, -, hstamp⟩
  match p with
  | [] => simp at hmem
  | [f] =>
    obtain ⟨rfl, hrest⟩ := List.cons.inj hsplit
    obtain ⟨rfl, -⟩ := List.cons.inj hrest
    obtain rfl : o' = frameOf 1 1 := by simpa using hmem
    simp [frameOf] at hstamp
  | _ :: _ :: _ => simp at hsplit

end Count

end SensorHealthMonitor

end MiniatureWarehouse
