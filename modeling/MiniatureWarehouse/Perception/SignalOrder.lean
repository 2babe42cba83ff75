import MiniatureWarehouse.Perception.SignalVerdict

/-!
# Arrival order and the signal window

The window is defined by measurement times, so the order in which samples arrive matters only
between samples with one stamp: sorting keeps them as they came.  `evaluate` gives the same
observation for two arrivals of the same samples that agree on the readings of equally stamped
luminance samples, in order, and on the last of the evidence samples with the latest stamp.  Where
no two samples share a stamp, every order of arrival will do.
-/

namespace MiniatureWarehouse

namespace Perception

/-! ## Lists under a permutation -/

section Lists

variable {α : Type*}

/-- The best of several finite floats does not depend on their order. -/
lemma pyBest_eq_of_perm {beaten : PyFloat α → PyFloat α → Prop} [DecidableRel beaten]
    {r : α → α → Prop} (hr : StrictOn beaten r) {xs ys : List (PyFloat α)} (hperm : xs.Perm ys)
    (hfinite : ∀ x ∈ xs, x.isFinite = true) : pyBest beaten xs = pyBest beaten ys := by
  by_cases hempty : xs = []
  · subst hempty
    rw [List.nil_perm.mp hperm]
  have hempty' : ys ≠ [] := fun h => hempty (List.perm_nil.mp (h ▸ hperm))
  obtain ⟨us, rfl⟩ := exists_map_fin hfinite
  obtain ⟨vs, rfl⟩ := exists_map_fin fun y hy => hfinite y (hperm.mem_iff.mpr hy)
  have hmem : ∀ x, x ∈ us ↔ x ∈ vs := by
    intro x
    have hfin := hperm.mem_iff (a := PyFloat.fin x)
    simpa using hfin
  obtain ⟨m, hm⟩ : ∃ m, pyBest beaten (us.map .fin) = .ok m := exists_pyBest hempty
  obtain ⟨m', hm'⟩ : ∃ m, pyBest beaten (vs.map .fin) = .ok m := exists_pyBest hempty'
  rw [hm, hm']
  obtain ⟨x, rfl, hx, hxs⟩ := pyBest_map_fin hr hm
  obtain ⟨y, rfl, hy, hys⟩ := pyBest_map_fin hr hm'
  rw [hr.eq x y (hxs y ((hmem y).mpr hy)) (hys x ((hmem x).mp hx))]

variable [Field α] [LinearOrder α]

/-- The last element of a sorted list closes the group of its key. -/
lemma getLast?_withKey {β κ : Type*} [LinearOrder κ] {key : β → κ} {xs : List β} {x : β}
    (hx : (sortBy key xs).getLast? = some x) : (withKey key (key x) xs).getLast? = some x := by
  obtain ⟨init, hinit⟩ := List.getLast?_eq_some_iff.mp hx
  rw [← withKey_sortBy, hinit]
  unfold withKey
  rw [List.filter_append, List.filter_singleton, decide_eq_true rfl, cond_true]
  exact List.getLast?_concat

end Lists

/-! ## Rate A -/

section Flash

variable {α : Type*} [Field α] [LinearOrder α] (params : SignalTemporalParams α)

/-- What the phases are read from: the stamp and the two ratios. -/
def reading (s : LuminanceSample α) : PyFloat α × PyFloat α × PyFloat α :=
  (s.stampS, s.greenRatio, s.redRatio)

/-- The phases are a function of the readings. -/
lemma binarise_congr {xs ys : List (LuminanceSample α)} (h : xs.map reading = ys.map reading)
    (phase : Option Phase) : binarise params phase xs = binarise params phase ys := by
  induction xs generalizing ys phase with
  | nil =>
    obtain rfl : ys = [] := by simpa using h.symm
    rfl
  | cons x xs ih =>
    cases ys with
    | nil => simp at h
    | cons y ys =>
      rw [List.map_cons, List.map_cons, List.cons.injEq] at h
      have hread : x.stampS = y.stampS ∧ x.greenRatio = y.greenRatio ∧ x.redRatio = y.redRatio := by
        simpa [reading] using h.1
      have hphase : nextPhase params phase x = nextPhase params phase y := by
        unfold nextPhase
        rw [hread.2.1]
      rw [binarise, binarise, hphase, hread.1, hread.2.2]
      cases nextPhase params phase y with
      | none => exact ih h.2 none
      | some p => exact congrArg _ (ih h.2 (some p))

/-- Two arrivals of one set of luminance samples with the same readings in each group of equal
stamps are read in the same order. -/
lemma map_reading_sortedByFloat {xs ys : List (LuminanceSample α)} (hperm : xs.Perm ys)
    (hfinite : ∀ s ∈ xs, s.stampS.isFinite = true)
    (hties : ∀ t : α, (xs.filter fun s => s.stampS = .fin t).map reading =
      (ys.filter fun s => s.stampS = .fin t).map reading) :
    (sortedByFloat (·.stampS) xs).map reading = (sortedByFloat (·.stampS) ys).map reading := by
  have hfinite' : ∀ s ∈ ys, s.stampS.isFinite = true :=
    fun s hs => hfinite s (hperm.mem_iff.mpr hs)
  -- sorting the samples sorts their readings
  have hmap : ∀ zs : List (LuminanceSample α), (∀ s ∈ zs, s.stampS.isFinite = true) →
      (sortedByFloat (·.stampS) zs).map reading =
        sortBy (finValue ∘ Prod.fst) (zs.map reading) := by
    intro zs hzs
    rw [sortedByFloat_eq_sortBy hzs]
    exact List.map_insertionSort _ _ reading zs fun _ _ _ _ => Iff.rfl
  have hgroup : ∀ zs : List (LuminanceSample α), (∀ s ∈ zs, s.stampS.isFinite = true) → ∀ t,
      withKey (finValue ∘ Prod.fst) t (zs.map reading) =
        (zs.filter fun s => s.stampS = .fin t).map reading := by
    intro zs hzs t
    unfold withKey
    rw [List.filter_map]
    congr 1
    refine List.filter_congr fun s hs => ?_
    obtain ⟨u, hu⟩ := PyFloat.isFinite_iff.mp (hzs s hs)
    simp [reading, finValue, hu]
  rw [hmap xs hfinite, hmap ys hfinite', sortBy_eq_sortBy_iff]
  intro t
  rw [hgroup xs hfinite, hgroup ys hfinite', hties t]

variable [IsStrictOrderedRing α] (F : FloatFormat α)

/-- The flash verdict depends on the readings in stamp order and on the set of exposures. -/
lemma flashVerdict_congr {xs ys : List (LuminanceSample α)} (hperm : xs.Perm ys)
    (hread : (sortedByFloat (·.stampS) xs).map reading = (sortedByFloat (·.stampS) ys).map reading)
    (windowStart windowEnd : PyFloat α) :
    flashVerdict F params xs windowStart windowEnd =
      flashVerdict F params ys windowStart windowEnd := by
  have hsorted : (sortedByFloat (·.stampS) xs).Perm (sortedByFloat (·.stampS) ys) :=
    (perm_sortedByFloat _ xs).trans (hperm.trans (perm_sortedByFloat _ ys).symm)
  unfold flashVerdict
  dsimp only
  rw [hsorted.length_eq, binarise_congr params hread none]
  by_cases hreadable : ∀ s ∈ sortedByFloat (·.stampS) xs, s.Readable
  · have hreadable' : ∀ s ∈ sortedByFloat (·.stampS) ys, s.Readable :=
      fun s hs => hreadable s (hsorted.mem_iff.mpr hs)
    have hexposures := hsorted.map (·.exposure)
    have hfinite : ∀ x ∈ (sortedByFloat (·.stampS) xs).map (·.exposure), x.isFinite = true := by
      rw [List.forall_mem_map]
      exact fun s hs => (hreadable s hs).2.2.2
    have hmax : pyMaxOf _ = pyMaxOf _ := pyBest_eq_of_perm strictOn_lt hexposures hfinite
    have hmin : pyMinOf _ = pyMinOf _ := pyBest_eq_of_perm strictOn_gt hexposures hfinite
    rw [hmax, hmin, if_neg (not_not.mpr hreadable), if_neg (not_not.mpr hreadable')]
  · have hunreadable : ¬ ∀ s ∈ sortedByFloat (·.stampS) ys, s.Readable :=
      fun h => hreadable fun s hs => h s (hsorted.mem_iff.mp hs)
    rw [if_pos hreadable, if_pos hunreadable]

end Flash

/-! ## Rate B -/

section Evidence

variable {α : Type*} [Field α] [LinearOrder α] [IsStrictOrderedRing α] (F : FloatFormat α)
  (params : SignalTemporalParams α)

/-- What the decision looks at in the latest evidence. -/
def shown (s : EvidenceSample α) : LampEvidence × Bool := (s.evidence, s.roiConsistent)

omit [Field α] [LinearOrder α] [IsStrictOrderedRing α] in
/-- A property of what the latest evidence shows. -/
lemma exists_getLast?_iff {xs ys : List (EvidenceSample α)}
    (hlast : xs.getLast?.map shown = ys.getLast?.map shown) (p : LampEvidence × Bool → Prop) :
    (∃ s ∈ xs.getLast?, p (shown s)) ↔ ∃ s ∈ ys.getLast?, p (shown s) := by
  have hmap : ∀ o : Option (EvidenceSample α),
      (∃ s ∈ o, p (shown s)) ↔ ∃ d ∈ o.map shown, p d := by
    intro o
    cases o with
    | none => simp
    | some s => simp
  rw [hmap, hmap, hlast]

/-- The votes are counted, in whatever order. -/
lemma holdsMajority_of_perm {xs ys : List (EvidenceSample α)} (hperm : xs.Perm ys)
    (wanted : LampEvidence) :
    holdsMajority F params xs wanted = holdsMajority F params ys wanted := by
  have hempty : xs = [] ↔ ys = [] := by
    rw [← List.length_eq_zero_iff, ← List.length_eq_zero_iff, hperm.length_eq]
  have hvotes : votes xs wanted = votes ys wanted := hperm.countP_eq _
  unfold holdsMajority
  rw [hvotes, hperm.length_eq]
  by_cases h : xs = []
  · rw [if_pos h, if_pos (hempty.mp h)]
  · rw [if_neg h, if_neg (mt hempty.mpr h)]

lemma signalValidFraction_of_perm {xs ys : List (EvidenceSample α)} (hperm : xs.Perm ys) :
    signalValidFraction F xs = signalValidFraction F ys := by
  have hempty : xs = [] ↔ ys = [] := by
    rw [← List.length_eq_zero_iff, ← List.length_eq_zero_iff, hperm.length_eq]
  unfold signalValidFraction
  rw [hperm.countP_eq, hperm.length_eq]
  by_cases h : xs = []
  · rw [if_pos h, if_pos (hempty.mp h)]
  · rw [if_neg h, if_neg (mt hempty.mpr h)]

/-- The state depends on the votes and on what the latest evidence shows. -/
lemma windowState_of_perm {xs ys : List (EvidenceSample α)} (hperm : xs.Perm ys)
    (hlast : xs.getLast?.map shown = ys.getLast?.map shown) (isFlashing : Option Bool)
    (evidenceReadable : Bool) :
    windowState F params isFlashing evidenceReadable xs =
      windowState F params isFlashing evidenceReadable ys := by
  have hvotes : votes xs .offOrUnlit = votes ys .offOrUnlit := hperm.countP_eq _
  have hroi := exists_getLast?_iff hlast fun d => d.2 = true
  have hgreen := exists_getLast?_iff hlast fun d => d.1 = .green
  simp only [shown] at hroi hgreen
  unfold windowState
  simp only [holdsMajority_of_perm F params hperm, hvotes, hperm.length_eq, hroi, hgreen]

end Evidence

/-! ## The window -/

section Window

variable {α : Type*} [Field α] [LinearOrder α]

/-- Two arrivals that agree on ties inside a window: equally stamped luminance samples give the
same readings in the same order, and of the evidence samples with the latest stamp the last one
shows the same. -/
structure SameTies (windowStart windowEnd : PyFloat α)
    (luminance luminance' : List (LuminanceSample α))
    (evidence evidence' : List (EvidenceSample α)) : Prop where
  readings : ∀ t : α, inWindow windowStart windowEnd (.fin t) = true →
    (luminance.filter fun s => s.stampS = .fin t).map reading =
      (luminance'.filter fun s => s.stampS = .fin t).map reading
  latest : ∀ t : α, inWindow windowStart windowEnd (.fin t) = true →
    (∀ s ∈ evidence, inWindow windowStart windowEnd s.stampS = true → s.stampS ≤ .fin t) →
    (evidence.filter fun s => s.stampS = .fin t).getLast?.map shown =
      (evidence'.filter fun s => s.stampS = .fin t).getLast?.map shown

omit [Field α] in
/-- The samples of the window with one stamp are those of the whole list, or none. -/
lemma filter_inside {β : Type*} (stamp : β → PyFloat α) (windowStart windowEnd : PyFloat α)
    (xs : List β) (t : α) :
    ((inside stamp windowStart windowEnd xs).filter fun x => stamp x = .fin t) =
      if inWindow windowStart windowEnd (.fin t) = true then xs.filter fun x => stamp x = .fin t
      else [] := by
  unfold inside
  rw [List.filter_filter]
  split_ifs with hin
  · refine List.filter_congr fun x _ => ?_
    by_cases hx : stamp x = .fin t
    · simp [hx, hin]
    · simp [hx]
  · rw [List.filter_eq_nil_iff]
    intro x _ hx
    rw [Bool.and_eq_true, decide_eq_true_eq] at hx
    exact hin (hx.1 ▸ hx.2)

/-- The latest evidence of two arrivals that agree on ties: one stamp, showing the same. -/
lemma getLast?_sortedByFloat_eq {windowStart windowEnd : PyFloat α}
    {luminance luminance' : List (LuminanceSample α)} {evidence evidence' : List (EvidenceSample α)}
    (hperm : evidence.Perm evidence')
    (hties : SameTies windowStart windowEnd luminance luminance' evidence evidence') :
    let last :=
      (sortedByFloat (·.stampS) (inside (·.stampS) windowStart windowEnd evidence)).getLast?
    let last' :=
      (sortedByFloat (·.stampS) (inside (·.stampS) windowStart windowEnd evidence')).getLast?
    last.map (·.stampS) = last'.map (·.stampS) ∧ last.map shown = last'.map shown := by
  intro last last'
  have hinside : (inside (·.stampS) windowStart windowEnd evidence).Perm
      (inside (·.stampS) windowStart windowEnd evidence') := hperm.filter _
  have hfinite : ∀ {es : List (EvidenceSample α)},
      ∀ s ∈ inside (·.stampS) windowStart windowEnd es, s.stampS.isFinite = true :=
    fun s hs => finite_of_mem_inside hs
  cases hlast : last with
  | none =>
    have hnil : sortedByFloat (·.stampS) (inside (·.stampS) windowStart windowEnd evidence) = [] :=
      List.getLast?_eq_none_iff.mp hlast
    have hlength := hinside.length_eq
    rw [← length_sortedByFloat (·.stampS) (inside _ _ _ evidence), hnil, List.length_nil] at hlength
    have hnil' : inside (·.stampS) windowStart windowEnd evidence' = [] :=
      List.eq_nil_of_length_eq_zero hlength.symm
    have hlast' : last' = none := by
      simp only [last', hnil']
      rfl
    rw [hlast']
    exact ⟨rfl, rfl⟩
  | some s =>
    -- the other arrival has a latest sample too, with the same stamp
    have hs : s ∈ inside (·.stampS) windowStart windowEnd evidence :=
      mem_sortedByFloat.mp (List.mem_of_getLast? hlast)
    obtain ⟨s', hlast'⟩ : ∃ s', last' = some s' := by
      rw [← Option.ne_none_iff_exists']
      intro hnone
      have hnil := List.getLast?_eq_none_iff.mp hnone
      have hmem := (perm_sortedByFloat (·.stampS) _).mem_iff.mpr (hinside.mem_iff.mp hs)
      rw [hnil] at hmem
      cases hmem
    have hs' : s' ∈ inside (·.stampS) windowStart windowEnd evidence' :=
      mem_sortedByFloat.mp (List.mem_of_getLast? hlast')
    obtain ⟨t, ht⟩ := PyFloat.isFinite_iff.mp (hfinite s hs)
    obtain ⟨t', ht'⟩ := PyFloat.isFinite_iff.mp (hfinite s' hs')
    have hle := le_of_getLast?_sortedByFloat hfinite hlast (hinside.mem_iff.mpr hs')
    have hge := le_of_getLast?_sortedByFloat hfinite hlast' (hinside.mem_iff.mp hs)
    rw [ht, ht'] at hle hge
    obtain rfl : t = t' := le_antisymm (PyFloat.fin_le_fin.mp hge) (PyFloat.fin_le_fin.mp hle)
    have hin : inWindow windowStart windowEnd (.fin t) = true := ht ▸ (List.mem_filter.mp hs).2
    -- each is the last arrival of its group
    have hgroup : ∀ {es : List (EvidenceSample α)} {u : EvidenceSample α}, u.stampS = .fin t →
        (sortedByFloat (·.stampS) (inside (·.stampS) windowStart windowEnd es)).getLast? = some u →
        (es.filter fun s => s.stampS = .fin t).getLast? = some u := by
      intro es u hu hlast
      rw [sortedByFloat_eq_sortBy hfinite] at hlast
      have hwith := getLast?_withKey hlast
      have hkey : withKey (finValue ∘ fun s : EvidenceSample α => s.stampS)
          ((finValue ∘ fun s : EvidenceSample α => s.stampS) u)
          (inside (·.stampS) windowStart windowEnd es) = es.filter fun s => s.stampS = .fin t := by
        have hfilter := filter_inside (·.stampS) windowStart windowEnd es t
        rw [if_pos hin] at hfilter
        rw [← hfilter]
        unfold withKey
        refine List.filter_congr fun x hx => ?_
        obtain ⟨y, hy⟩ := PyFloat.isFinite_iff.mp (hfinite x hx)
        simp [hu, hy, finValue]
      rwa [hkey] at hwith
    have hlatest := hties.latest t hin fun r hr hrin => ht ▸
      le_of_getLast?_sortedByFloat hfinite hlast (List.mem_filter.mpr ⟨hr, hrin⟩)
    rw [hgroup ht hlast, hgroup ht' hlast'] at hlatest
    rw [hlast']
    exact ⟨congrArg some (ht.trans ht'.symm), hlatest⟩

variable [IsStrictOrderedRing α] (F : FloatFormat α)

omit [Field α] [LinearOrder α] [IsStrictOrderedRing α] in
/-- A property of every sample does not depend on the order of arrival. -/
lemma forall_mem_iff_of_perm {β : Type*} {xs ys : List β} (hperm : xs.Perm ys) (p : β → Prop) :
    (∀ x ∈ xs, p x) ↔ ∀ y ∈ ys, p y :=
  forall_congr' fun _ => by rw [hperm.mem_iff]

/-- Rate A of two arrivals that agree on ties. -/
lemma rateA_of_perm (params : SignalTemporalParams α) {windowStart windowEnd : PyFloat α}
    {luminance luminance' : List (LuminanceSample α)} {evidence evidence' : List (EvidenceSample α)}
    (hperm : luminance.Perm luminance')
    (hties : SameTies windowStart windowEnd luminance luminance' evidence evidence') :
    rateA F params luminance (inside (·.stampS) windowStart windowEnd luminance) windowStart
        windowEnd =
      rateA F params luminance' (inside (·.stampS) windowStart windowEnd luminance') windowStart
        windowEnd := by
  have hinside : (inside (·.stampS) windowStart windowEnd luminance).Perm
      (inside (·.stampS) windowStart windowEnd luminance') := hperm.filter _
  have hread := map_reading_sortedByFloat hinside (fun s hs => finite_of_mem_inside hs) fun t => by
    rw [filter_inside LuminanceSample.stampS, filter_inside LuminanceSample.stampS]
    split_ifs with hin
    · exact hties.readings t hin
    · rfl
  unfold rateA
  rw [flashVerdict_congr params F hinside hread]
  by_cases hfinite : ∀ s ∈ luminance, s.stampS.isFinite = true
  · rw [if_pos hfinite, if_pos ((forall_mem_iff_of_perm hperm _).mp hfinite)]
  · rw [if_neg hfinite, if_neg (mt (forall_mem_iff_of_perm hperm _).mpr hfinite)]

omit [Field α] [IsStrictOrderedRing α] in
/-- The source stamp of two arrivals with one latest stamp. -/
lemma sourceStampOf_of_perm {xs ys : List (EvidenceSample α)} {lit lit' : List (LuminanceSample α)}
    (hlast : xs.getLast?.map (·.stampS) = ys.getLast?.map (·.stampS)) (hlit : lit.Perm lit')
    (hfinite : ∀ s ∈ lit, s.stampS.isFinite = true) :
    sourceStampOf xs lit = sourceStampOf ys lit' := by
  unfold sourceStampOf
  cases hx : xs.getLast? with
  | none =>
    rw [hx, Option.map_none] at hlast
    rw [Option.map_eq_none_iff.mp hlast.symm]
    refine pyBest_eq_of_perm strictOn_lt (hlit.map _) ?_
    rw [List.forall_mem_map]
    exact hfinite
  | some s =>
    rw [hx, Option.map_some] at hlast
    obtain ⟨s', hs', hstamp⟩ := Option.map_eq_some_iff.mp hlast.symm
    rw [hs']
    exact congrArg Except.ok hstamp.symm

variable (w : SignalWindow α) (args : WindowArgs α)

/-- The observation is a function of the counts and of the latest evidence. -/
lemma observe_of_perm {xs ys : List (EvidenceSample α)} (hperm : xs.Perm ys)
    (hlast : xs.getLast?.map shown = ys.getLast?.map shown) (flash : FlashVerdict α)
    (evidenceReadable : Bool) (sourceStamp : PyFloat α) (latency : Option (PyFloat α)) :
    w.observe F args flash evidenceReadable xs sourceStamp latency =
      w.observe F args flash evidenceReadable ys sourceStamp latency := by
  have hvotes : votes xs .offOrUnlit = votes ys .offOrUnlit := hperm.countP_eq _
  have hroi : xs.getLast?.elim false (·.roiConsistent) =
      ys.getLast?.elim false (·.roiConsistent) := by
    have helim : ∀ o : Option (EvidenceSample α),
        o.elim false (·.roiConsistent) = (o.map shown).elim false Prod.snd := by
      intro o
      cases o <;> rfl
    rw [helim, helim, hlast]
  unfold SignalWindow.observe
  rw [windowState_of_perm F w.params hperm hlast, signalValidFraction_of_perm F hperm, hroi, hvotes,
    hperm.length_eq]

/-- **The order of arrival does not matter**: two arrivals of the same samples that agree on ties
give the same observation. -/
theorem evaluate_eq_of_perm {luminance luminance' : List (LuminanceSample α)}
    {evidence evidence' : List (EvidenceSample α)} (hluminance : luminance.Perm luminance')
    (hevidence : evidence.Perm evidence')
    (hties : ∀ windowEnd, readable F args.windowEndS = .ok windowEnd →
      SameTies (F.sub windowEnd (.fin w.params.windowSpanS)) windowEnd luminance luminance'
        evidence evidence') :
    w.evaluate F args luminance evidence = w.evaluate F args luminance' evidence' := by
  unfold SignalWindow.evaluate
  cases hend : readable F args.windowEndS with
  | error e => rfl
  | ok windowEnd =>
    simp only [Except.bind]
    split_ifs with hfinite
    · have hties := hties windowEnd hend
      set windowStart := F.sub windowEnd (.fin w.params.windowSpanS) with hstart
      have hlit : (inside (·.stampS) windowStart windowEnd luminance).Perm
          (inside (·.stampS) windowStart windowEnd luminance') := hluminance.filter _
      have hvotes : (sortedByFloat (·.stampS) (inside (·.stampS) windowStart windowEnd evidence)).Perm
          (sortedByFloat (·.stampS) (inside (·.stampS) windowStart windowEnd evidence')) :=
        (perm_sortedByFloat _ _).trans ((hevidence.filter _).trans (perm_sortedByFloat _ _).symm)
      obtain ⟨hstamp, hshown⟩ := getLast?_sortedByFloat_eq hevidence hties
      have hsource := sourceStampOf_of_perm hstamp hlit fun s hs => finite_of_mem_inside hs
      have hreadable : decide (∀ s ∈ evidence, s.stampS.isFinite = true) =
          decide (∀ s ∈ evidence', s.stampS.isFinite = true) :=
        decide_eq_decide.mpr (forall_mem_iff_of_perm hevidence _)
      unfold SignalWindow.evaluateAt
      simp only [← hstart]
      rw [rateA_of_perm F w.params hluminance hties, hsource, hreadable]
      simp only [observe_of_perm F w args hvotes hshown]
      have hempty : (sortedByFloat (·.stampS) (inside (·.stampS) windowStart windowEnd evidence) = [] ∧
            inside (·.stampS) windowStart windowEnd luminance = []) ↔
          (sortedByFloat (·.stampS) (inside (·.stampS) windowStart windowEnd evidence') = [] ∧
            inside (·.stampS) windowStart windowEnd luminance' = []) := by
        rw [← List.length_eq_zero_iff, ← List.length_eq_zero_iff, ← List.length_eq_zero_iff,
          ← List.length_eq_zero_iff, hvotes.length_eq, hlit.length_eq]
      by_cases h : sortedByFloat (·.stampS) (inside (·.stampS) windowStart windowEnd evidence) = [] ∧
          inside (·.stampS) windowStart windowEnd luminance = []
      · rw [if_pos h, if_pos (hempty.mp h)]
      · rw [if_neg h, if_neg (mt hempty.mpr h)]
    · rfl

omit [Field α] [IsStrictOrderedRing α] in
/-- Where no two samples of a window share a stamp, every two arrivals agree on ties. -/
lemma sameTies_of_distinct {windowStart windowEnd : PyFloat α}
    {luminance luminance' : List (LuminanceSample α)} {evidence evidence' : List (EvidenceSample α)}
    (hluminance : luminance.Perm luminance') (hevidence : evidence.Perm evidence')
    (hlit : ((inside (·.stampS) windowStart windowEnd luminance).map (·.stampS)).Nodup)
    (hvotes : ((inside (·.stampS) windowStart windowEnd evidence).map (·.stampS)).Nodup) :
    SameTies windowStart windowEnd luminance luminance' evidence evidence' where
  readings t hin := by
    have hone := length_filter_key_le_one hlit (.fin t)
    rw [filter_inside LuminanceSample.stampS, if_pos hin] at hone
    rw [eq_of_perm_of_length_le_one (hluminance.filter _) hone]
  latest t hin _ := by
    have hone := length_filter_key_le_one hvotes (.fin t)
    rw [filter_inside EvidenceSample.stampS, if_pos hin] at hone
    rw [eq_of_perm_of_length_le_one (hevidence.filter _) hone]

end Window

theorem evaluate_eq_of_perm_reversed :
    northCrossing.evaluate (FloatFormat.exact ℚ) firstSecond litFrames greenFrames =
      northCrossing.evaluate (FloatFormat.exact ℚ) firstSecond litFrames.reverse
        greenFrames.reverse := by
  refine evaluate_eq_of_perm (FloatFormat.exact ℚ) northCrossing firstSecond
    (List.reverse_perm _).symm (List.reverse_perm _).symm ?_
  intro windowEnd hend
  obtain rfl : .fin 1 = windowEnd := Except.ok.inj hend
  exact sameTies_of_distinct (List.reverse_perm _).symm (List.reverse_perm _).symm
    (by decide +kernel) (by decide +kernel)

/-- Four frames of a blink that is dark, lit, and in the last two, with one stamp, both. -/
def tiedBlink : List (LuminanceSample ℚ) :=
  [⟨.fin (1 / 10), .fin 0, .fin 0, .fin 0⟩, ⟨.fin (3 / 10), .fin 1, .fin 0, .fin 0⟩,
    ⟨.fin (4 / 5), .fin 0, .fin 0, .fin 0⟩, ⟨.fin (4 / 5), .fin 1, .fin 0, .fin 0⟩]

/-- Two green frames with one stamp, of which only the second matches the registered region. -/
def tiedGreen : List (EvidenceSample ℚ) := [⟨.fin 1, .green, false⟩, ⟨.fin 1, .green, true⟩]

/-- Between samples with one stamp the order of arrival decides: which of the two latest evidence
samples counts, and whether a blink has its second rising edge. -/
theorem tied_samples_leak_arrival_order :
    (tiedGreen.Perm tiedGreen.reverse ∧
      observedState (northCrossing.evaluate (FloatFormat.exact ℚ) firstSecond litFrames tiedGreen) =
        some .green ∧
      observedState (northCrossing.evaluate (FloatFormat.exact ℚ) firstSecond litFrames
        tiedGreen.reverse) = some .unknown) ∧
    tiedBlink.Perm tiedBlink.reverse ∧
      observedState (northCrossing.evaluate (FloatFormat.exact ℚ) firstSecond tiedBlink []) =
        some .greenFlashing ∧
      observedState (northCrossing.evaluate (FloatFormat.exact ℚ) firstSecond tiedBlink.reverse
        []) = some .unknown :=
  ⟨⟨(List.reverse_perm _).symm, by decide +kernel, by decide +kernel⟩,
    (List.reverse_perm _).symm, by decide +kernel, by decide +kernel⟩

end Perception

end MiniatureWarehouse
