import MiniatureWarehouse.Framework.Runs
import MiniatureWarehouse.Framework.Values

/-!
# Streaming totals

The share of samples below a line and the area under a series need the whole series.  A live
consumer has no whole series, so the accumulator folds every point it accepts into the running
totals of its label and keeps nothing but the last one.

A point is accepted when it is finite and its stamp is past that of the last accepted point.
`advancing` picks these points out of a finished list, and `Summarises` says that the running
totals are those of the list: the induction carries the last point, because the next trapezoid
starts there.
-/

namespace MiniatureWarehouse

namespace EvalSdk

/-- A point of a series. -/
structure Sample (α : Type*) where
  t : PyFloat α
  y : PyFloat α
  deriving DecidableEq, Repr

/-- A point as it is fed, with the label of its series. -/
structure Fed (α : Type*) where
  label : String
  point : Sample α

/-! ## The accepted points of a list -/

section Advancing

variable {α β : Type*} [LinearOrder α]

/-- The next element is kept when it is usable and its stamp is past that of the last kept one. -/
def keepNext (usable : β → Bool) (stamp : β → PyFloat α) (kept : List β) (b : β) : List β :=
  if usable b ∧ ∀ last ∈ kept.getLast?, stamp last < stamp b then kept ++ [b] else kept

/-- The elements that are kept, in order. -/
def advancing (usable : β → Bool) (stamp : β → PyFloat α) (bs : List β) : List β :=
  bs.foldl (keepNext usable stamp) []

variable {usable : β → Bool} {stamp : β → PyFloat α}

lemma advancing_concat (bs : List β) (b : β) :
    advancing usable stamp (bs ++ [b]) = keepNext usable stamp (advancing usable stamp bs) b := by
  unfold advancing
  rw [List.foldl_append, List.foldl_cons, List.foldl_nil]

/-- Every kept element is usable. -/
lemma usable_of_mem_advancing {bs : List β} {b : β} (hb : b ∈ advancing usable stamp bs) :
    usable b = true := by
  induction bs using List.reverseRecOn with
  | nil => exact absurd hb List.not_mem_nil
  | append_singleton bs b' ih =>
    rw [advancing_concat] at hb
    unfold keepNext at hb
    split_ifs at hb with hkeep
    · rcases List.mem_append.mp hb with hb | hb
      · exact ih hb
      · rw [List.mem_singleton.mp hb]
        exact hkeep.1
    · exact ih hb

/-- The elements may be looked at through a map, as long as the unusable ones are told apart. -/
lemma map_advancing {γ : Type*} {usable' : γ → Bool} {stamp' : γ → PyFloat α} (view : β → γ)
    (pick : β → Bool) (husable : ∀ b, usable b = (pick b && usable' (view b)))
    (hstamp : ∀ b, stamp b = stamp' (view b)) (bs : List β) :
    (advancing usable stamp bs).map view = advancing usable' stamp' ((bs.filter pick).map view) := by
  induction bs using List.reverseRecOn with
  | nil => rfl
  | append_singleton bs b ih =>
    rw [advancing_concat, List.filter_append, List.map_append]
    unfold keepNext
    by_cases hpick : pick b = true
    · rw [List.filter_cons_of_pos hpick, List.filter_nil, List.map_cons, List.map_nil,
        advancing_concat, ← ih]
      unfold keepNext
      have hlast : (∀ last ∈ (advancing usable stamp bs).getLast?, stamp last < stamp b) ↔
          ∀ last ∈ ((advancing usable stamp bs).map view).getLast?, stamp' last < stamp' (view b) := by
        rw [List.getLast?_map]
        simp [hstamp]
      have hsame : usable b = usable' (view b) := by rw [husable, hpick, Bool.true_and]
      by_cases hkeep : usable' (view b) = true ∧
          ∀ last ∈ ((advancing usable stamp bs).map view).getLast?, stamp' last < stamp' (view b)
      · rw [if_pos hkeep, if_pos ⟨hsame.trans hkeep.1, hlast.mpr hkeep.2⟩, List.map_append,
          List.map_cons, List.map_nil]
      · rw [if_neg hkeep, if_neg fun h => hkeep ⟨hsame.symm.trans h.1, hlast.mp h.2⟩]
    · have hunusable : ¬ (usable b = true ∧
          ∀ last ∈ (advancing usable stamp bs).getLast?, stamp last < stamp b) := by
        rintro ⟨h, -⟩
        rw [husable, Bool.and_eq_true] at h
        exact hpick h.1
      rw [if_neg hunusable, List.filter_cons_of_neg hpick, List.filter_nil, List.map_nil,
        List.append_nil]
      exact ih

end Advancing

/-! ## The batch functions -/

section Batch

variable {α : Type*} [Field α] [LinearOrder α] [IsStrictOrderedRing α] (F : FloatFormat α)

/-- How many values are at or below the threshold. -/
def countAtOrBelow (threshold : PyFloat α) (values : List (PyFloat α)) : ℕ :=
  values.countP fun value => value ≤ threshold

/-- `fraction_at_or_below`. -/
def fractionAtOrBelow (values : List (PyFloat α)) (threshold : PyFloat α) :
    Except PyErr (Option (PyFloat α)) :=
  if threshold.isFinite = false then .error .valueError
  else if values.isEmpty then .ok none
  else .ok (some (F.round (countAtOrBelow threshold values / values.length)))

/-- The area of one step: its own spacing times the mean of its two ends. -/
def trapezoid (p q : Sample α) : PyFloat α :=
  F.div (F.mul (F.sub q.t p.t) (F.add p.y q.y)) (.fin 2)

/-- The loop of `trapezoid_integral`, left as soon as a stamp does not advance. -/
def trapezoidLoop : PyFloat α → List (Sample α) → Option (PyFloat α)
  | total, p :: q :: rest =>
    if .fin 0 < F.sub q.t p.t then trapezoidLoop (F.add total (trapezoid F p q)) (q :: rest)
    else none
  | total, _ => some total

/-- `trapezoid_integral`. -/
def trapezoidIntegral (times values : List (PyFloat α)) : Except PyErr (Option (PyFloat α)) :=
  if times.length ≠ values.length then .error .valueError
  else if times.length < 2 then .ok none
  else .ok ((trapezoidLoop F (.fin 0) (List.zipWith Sample.mk times values)).filter
    PyFloat.isFinite)

end Batch

/-! ## The accumulator -/

/-- `_RunningSeries`. -/
structure RunningSeries (α : Type*) where
  samples : ℕ
  atOrBelow : ℕ
  integral : PyFloat α
  tFirst : PyFloat α
  tLast : PyFloat α
  yLast : PyFloat α

/-- `SeriesTotals`. -/
structure SeriesTotals (α : Type*) where
  samples : ℕ
  atOrBelow : Option ℕ
  integral : PyFloat α
  tFirst : PyFloat α
  tLast : PyFloat α
  deriving DecidableEq, Repr

/-- `TimeSeriesAccumulator`, with what its constructor checks of the threshold. -/
structure TimeSeriesAccumulator (α : Type*) where
  threshold : Option (PyFloat α)
  threshold_finite : ∀ line ∈ threshold, line.isFinite = true
  labels : Dict String (RunningSeries α)

namespace TimeSeriesAccumulator

variable {α : Type*} [Field α] [LinearOrder α] [IsStrictOrderedRing α] (F : FloatFormat α)

/-- An accumulator as it is built. -/
def init (threshold : Option (PyFloat α)) (h : ∀ line ∈ threshold, line.isFinite = true) :
    TimeSeriesAccumulator α := ⟨threshold, h, .empty⟩

/-- `_counted`. -/
def counted (threshold : Option (PyFloat α)) (y : PyFloat α) : ℕ :=
  match threshold with
  | some line => if y ≤ line then 1 else 0
  | none => 0

/-- `add`. -/
def add (acc : TimeSeriesAccumulator α) (fed : Fed α) : TimeSeriesAccumulator α × Bool :=
  let p := fed.point
  if ¬ (p.t.isFinite ∧ p.y.isFinite) then (acc, false)
  else match acc.labels.get? fed.label with
    | none =>
      ({ acc with
          labels := acc.labels.set fed.label
            ⟨1, counted acc.threshold p.y, .fin 0, p.t, p.t, p.y⟩ }, true)
    | some series =>
      if ¬ series.tLast < p.t then (acc, false)
      else
        ({ acc with
            labels := acc.labels.set fed.label
              { series with
                samples := series.samples + 1
                atOrBelow := series.atOrBelow + counted acc.threshold p.y
                integral := F.add series.integral (trapezoid F ⟨series.tLast, series.yLast⟩ p)
                tLast := p.t
                yLast := p.y } }, true)

/-- The accumulator under its points. -/
def machine : Machine (TimeSeriesAccumulator α) (Fed α) Bool := ⟨add F⟩

/-- The snapshot of one series. -/
def snapshot (threshold : Option (PyFloat α)) (series : RunningSeries α) : SeriesTotals α where
  samples := series.samples
  atOrBelow := threshold.map fun _ => series.atOrBelow
  integral := series.integral
  tFirst := series.tFirst
  tLast := series.tLast

/-- `totals`. -/
def totals (acc : TimeSeriesAccumulator α) : Dict String (SeriesTotals α) :=
  acc.labels.mapValues fun _ series => snapshot acc.threshold series

end TimeSeriesAccumulator

/-! ## The totals are those of the accepted points -/

section Exact

variable {α : Type*} [Field α] [LinearOrder α] [IsStrictOrderedRing α]

/-- A point that can enter a series. -/
def Sample.usable (p : Sample α) : Bool := p.t.isFinite && p.y.isFinite

/-- The accepted points of a label. -/
def acceptedPoints (label : String) (feed : List (Fed α)) : List (Sample α) :=
  advancing Sample.usable Sample.t ((feed.filter (·.label = label)).map Fed.point)

/-- The running totals of a series are those of its points. -/
structure Summarises (threshold : Option (PyFloat α)) (points : List (Sample α))
    (series : RunningSeries α) : Prop where
  samples : series.samples = points.length
  atOrBelow : ∀ line ∈ threshold, series.atOrBelow = countAtOrBelow line (points.map Sample.y)
  integral : trapezoidLoop (.exact α) (.fin 0) points = some series.integral
  integral_finite : series.integral.isFinite = true
  first : points.head?.map Sample.t = some series.tFirst
  last : points.getLast? = some ⟨series.tLast, series.yLast⟩

/-- A label is absent exactly while it has no accepted point. -/
def Tracks (threshold : Option (PyFloat α)) (points : List (Sample α)) :
    Option (RunningSeries α) → Prop
  | none => points = []
  | some series => Summarises threshold points series

lemma trapezoidLoop_concat {F : FloatFormat α} {points : List (Sample α)} {p q : Sample α}
    {total total' : PyFloat α} (hlast : points.getLast? = some p)
    (hloop : trapezoidLoop F total points = some total') (hspan : .fin 0 < F.sub q.t p.t) :
    trapezoidLoop F total (points ++ [q]) = some (F.add total' (trapezoid F p q)) := by
  induction points generalizing total with
  | nil => cases hlast
  | cons a points ih =>
    cases points with
    | nil =>
      obtain rfl : a = p := Option.some.inj hlast
      obtain rfl : total = total' := Option.some.inj hloop
      show (if .fin 0 < F.sub q.t a.t then
        trapezoidLoop F (F.add total (trapezoid F a q)) [q] else none) = _
      rw [if_pos hspan]
      rfl
    | cons b rest =>
      rw [List.getLast?_cons_cons] at hlast
      unfold trapezoidLoop at hloop
      show (if .fin 0 < F.sub b.t a.t then
        trapezoidLoop F (F.add total (trapezoid F a b)) (b :: (rest ++ [q])) else none) = _
      split_ifs at hloop ⊢
      · exact ih hlast hloop

/-- Over exact arithmetic an advancing stamp spans an interval, and its area is a number. -/
lemma span_pos {p q : Sample α} (hp : p.t.isFinite = true) (hq : q.t.isFinite = true)
    (hlt : p.t < q.t) : .fin 0 < (FloatFormat.exact α).sub q.t p.t := by
  obtain ⟨t, ht⟩ := PyFloat.isFinite_iff.mp hp
  obtain ⟨t', ht'⟩ := PyFloat.isFinite_iff.mp hq
  rw [ht, ht'] at hlt ⊢
  show (0 : α) < t' + -t
  have hlt' : t < t' := hlt
  linarith

lemma isFinite_add_trapezoid {total : PyFloat α} {p q : Sample α}
    (htotal : total.isFinite = true) (hp : p.usable = true) (hq : q.usable = true) :
    ((FloatFormat.exact α).add total (trapezoid (.exact α) p q)).isFinite = true := by
  obtain ⟨pt, py⟩ := p
  obtain ⟨qt, qy⟩ := q
  unfold Sample.usable at hp hq
  rw [Bool.and_eq_true] at hp hq
  obtain ⟨x, rfl⟩ := PyFloat.isFinite_iff.mp htotal
  obtain ⟨t, ht⟩ := PyFloat.isFinite_iff.mp hp.1
  obtain ⟨y, hy⟩ := PyFloat.isFinite_iff.mp hp.2
  obtain ⟨t', ht'⟩ := PyFloat.isFinite_iff.mp hq.1
  obtain ⟨y', hy'⟩ := PyFloat.isFinite_iff.mp hq.2
  dsimp only at ht hy ht' hy'
  subst ht hy ht' hy'
  rfl

/-- What the totals of a label become when a point is accepted. -/
def extend (threshold : Option (PyFloat α)) (p : Sample α) :
    Option (RunningSeries α) → RunningSeries α
  | none => ⟨1, TimeSeriesAccumulator.counted threshold p.y, .fin 0, p.t, p.t, p.y⟩
  | some series =>
    { series with
      samples := series.samples + 1
      atOrBelow := series.atOrBelow + TimeSeriesAccumulator.counted threshold p.y
      integral := (FloatFormat.exact α).add series.integral
        (trapezoid (.exact α) ⟨series.tLast, series.yLast⟩ p)
      tLast := p.t
      yLast := p.y }

omit [Field α] [IsStrictOrderedRing α] in
lemma counted_eq {threshold : Option (PyFloat α)} {line : PyFloat α} (hline : line ∈ threshold)
    (y : PyFloat α) :
    TimeSeriesAccumulator.counted threshold y = countAtOrBelow line [y] := by
  obtain rfl := Option.mem_def.mp hline
  unfold TimeSeriesAccumulator.counted countAtOrBelow
  by_cases h : y ≤ line <;> simp [h]

/-- **An accepted point** keeps the totals those of the points. -/
lemma Tracks.extend {threshold : Option (PyFloat α)} {points : List (Sample α)}
    {series : Option (RunningSeries α)} (h : Tracks threshold points series)
    (husable : ∀ q ∈ points, q.usable = true) {p : Sample α} (hp : p.usable = true)
    (hadvances : ∀ last ∈ points.getLast?, last.t < p.t) :
    Summarises threshold (points ++ [p]) (extend threshold p series) := by
  cases series with
  | none =>
    obtain rfl : points = [] := h
    exact ⟨rfl, fun line hline => counted_eq hline p.y, rfl, rfl, rfl, rfl⟩
  | some series =>
    have hsummary : Summarises threshold points series := h
    have hlastMem : (⟨series.tLast, series.yLast⟩ : Sample α) ∈ points :=
      List.mem_of_getLast? hsummary.last
    have hlastUsable := husable _ hlastMem
    have hlt : series.tLast < p.t := hadvances _ hsummary.last
    have hspan : .fin 0 < (FloatFormat.exact α).sub p.t series.tLast := by
      have hlastFinite := (Bool.and_eq_true _ _ ▸ hlastUsable : _ ∧ _).1
      have hpFinite := (Bool.and_eq_true _ _ ▸ hp : _ ∧ _).1
      exact span_pos (p := ⟨series.tLast, series.yLast⟩) hlastFinite hpFinite hlt
    refine ⟨?_, ?_, ?_, ?_, ?_, ?_⟩
    · rw [List.length_append, ← hsummary.samples]
      rfl
    · intro line hline
      have hcount := counted_eq hline p.y
      have hold := hsummary.atOrBelow line hline
      unfold countAtOrBelow at *
      rw [List.map_append, List.countP_append, ← hold, List.map_cons, List.map_nil, ← hcount]
      rfl
    · exact trapezoidLoop_concat hsummary.last hsummary.integral hspan
    · exact isFinite_add_trapezoid hsummary.integral_finite hlastUsable hp
    · rw [List.head?_append_of_ne_nil _ (List.ne_nil_of_mem hlastMem), hsummary.first]
      rfl
    · exact List.getLast?_concat

/-- **One call.**  A point is kept exactly when it is usable and advances its series. -/
lemma add_eq (acc : TimeSeriesAccumulator α) (fed : Fed α) :
    acc.add (.exact α) fed =
      if fed.point.usable = true ∧
          ∀ series ∈ acc.labels.get? fed.label, series.tLast < fed.point.t then
        ({ acc with
            labels := acc.labels.set fed.label
              (extend acc.threshold fed.point (acc.labels.get? fed.label)) }, true)
      else (acc, false) := by
  unfold TimeSeriesAccumulator.add Sample.usable
  dsimp only
  by_cases hfinite : fed.point.t.isFinite = true ∧ fed.point.y.isFinite = true
  · rw [if_neg (not_not.mpr hfinite)]
    cases hseries : acc.labels.get? fed.label with
    | none => simp [hfinite, extend]
    | some series =>
      by_cases hlt : series.tLast < fed.point.t
      · simp [hfinite, hlt, extend]
      · simp [hlt]
  · rw [if_pos hfinite, if_neg]
    rintro ⟨h, -⟩
    exact hfinite (Bool.and_eq_true _ _ ▸ h)

end Exact

/-! ## Whole runs -/

section Runs

variable {α : Type*} [Field α] [LinearOrder α] [IsStrictOrderedRing α]

omit [Field α] [IsStrictOrderedRing α] in
lemma acceptedPoints_concat (label : String) (feed : List (Fed α)) (fed : Fed α) :
    acceptedPoints label (feed ++ [fed]) =
      if fed.label = label then
        keepNext Sample.usable Sample.t (acceptedPoints label feed) fed.point
      else acceptedPoints label feed := by
  unfold acceptedPoints
  rw [List.filter_append, List.map_append]
  split_ifs with hlabel
  · rw [List.filter_cons_of_pos (by simpa using hlabel), List.filter_nil, List.map_cons,
      List.map_nil, advancing_concat]
  · rw [List.filter_cons_of_neg (by simpa using hlabel), List.filter_nil, List.map_nil,
      List.append_nil]

/-- The totals know the last accepted point. -/
lemma Tracks.advances_iff {threshold : Option (PyFloat α)} {points : List (Sample α)}
    {series : Option (RunningSeries α)} (h : Tracks threshold points series) (t : PyFloat α) :
    (∀ s ∈ series, s.tLast < t) ↔ ∀ last ∈ points.getLast?, last.t < t := by
  cases series with
  | none =>
    obtain rfl : points = [] := h
    simp
  | some series =>
    have hlast : points.getLast? = some ⟨series.tLast, series.yLast⟩ := h.last
    rw [hlast]
    simp

/-- **Every run.**  The totals of every label are those of its accepted points. -/
lemma tracks_run (threshold : Option (PyFloat α))
    (h : ∀ line ∈ threshold, line.isFinite = true) (feed : List (Fed α)) :
    let acc := (TimeSeriesAccumulator.machine (.exact α)).run (.init threshold h) feed
    acc.threshold = threshold ∧
      ∀ label, Tracks threshold (acceptedPoints label feed) (acc.labels.get? label) := by
  let I (feed : List (Fed α)) (acc : TimeSeriesAccumulator α) : Prop :=
    acc.threshold = threshold ∧
      ∀ label, Tracks threshold (acceptedPoints label feed) (acc.labels.get? label)
  have hinit : I [] (.init threshold h) := ⟨rfl, fun _ => rfl⟩
  refine Machine.run_history (I := I) hinit ?_ feed
  rintro past fed ⟨hthreshold, hlabels⟩
  generalize (TimeSeriesAccumulator.machine (.exact α)).run (.init threshold h) past = acc at *
  show (acc.add (.exact α) fed).1.threshold = threshold ∧
    ∀ label, Tracks threshold _ ((acc.add (.exact α) fed).1.labels.get? label)
  have hiff := (hlabels fed.label).advances_iff fed.point.t
  rw [add_eq]
  by_cases hkeep : fed.point.usable = true ∧
      ∀ series ∈ acc.labels.get? fed.label, series.tLast < fed.point.t
  · rw [if_pos hkeep]
    refine ⟨hthreshold, fun label => ?_⟩
    dsimp only
    rw [acceptedPoints_concat, Dict.get?_set]
    by_cases hlabel : label = fed.label
    · subst hlabel
      have hadvances := hiff.mp hkeep.2
      rw [if_pos rfl, if_pos rfl, hthreshold, keepNext, if_pos ⟨hkeep.1, hadvances⟩]
      exact (hlabels fed.label).extend (fun q hq => usable_of_mem_advancing hq) hkeep.1 hadvances
    · rw [if_neg (Ne.symm hlabel), if_neg hlabel]
      exact hlabels label
  · rw [if_neg hkeep]
    refine ⟨hthreshold, fun label => ?_⟩
    rw [acceptedPoints_concat]
    by_cases hlabel : fed.label = label
    · subst hlabel
      rw [if_pos rfl, keepNext, if_neg fun hk => hkeep ⟨hk.1, hiff.mpr hk.2⟩]
      exact hlabels fed.label
    · rw [if_neg hlabel]
      exact hlabels label

/-- A call answers whether the point is kept. -/
lemma add_answer {threshold : Option (PyFloat α)} (h : ∀ line ∈ threshold, line.isFinite = true)
    (past : List (Fed α)) (fed : Fed α) :
    (((TimeSeriesAccumulator.machine (.exact α)).run (.init threshold h) past).add (.exact α)
        fed).2 = true ↔
      fed.point.usable = true ∧
        ∀ last ∈ (acceptedPoints fed.label past).getLast?, last.t < fed.point.t := by
  have htracks := (tracks_run threshold h past).2 fed.label
  rw [add_eq, ← htracks.advances_iff fed.point.t]
  by_cases hkeep : fed.point.usable = true ∧
      ∀ series ∈ ((TimeSeriesAccumulator.machine (.exact α)).run (.init threshold h)
        past).labels.get? fed.label, series.tLast < fed.point.t
  · rw [if_pos hkeep]
    exact iff_of_true rfl hkeep
  · rw [if_neg hkeep]
    exact iff_of_false Bool.false_ne_true hkeep

/-- The totals of a label are what the batch functions make of its accepted points.  A single
point bounds no area, where the batch integral is undefined. -/
structure BatchTotals (threshold : Option (PyFloat α)) (points : List (Sample α))
    (totals : SeriesTotals α) : Prop where
  samples : totals.samples = points.length
  atOrBelow : totals.atOrBelow =
    threshold.map fun line => countAtOrBelow line (points.map Sample.y)
  fraction : ∀ line ∈ threshold, ∀ count ∈ totals.atOrBelow,
    fractionAtOrBelow (.exact α) (points.map Sample.y) line =
      .ok (some (.fin (count / totals.samples)))
  integral : 2 ≤ points.length →
    trapezoidIntegral (.exact α) (points.map Sample.t) (points.map Sample.y) =
      .ok (some totals.integral)
  single : points.length = 1 → totals.integral = .fin 0
  first : (points.map Sample.t).head? = some totals.tFirst
  last : (points.map Sample.t).getLast? = some totals.tLast

omit [Field α] [LinearOrder α] [IsStrictOrderedRing α] in
lemma zipWith_mk (points : List (Sample α)) :
    List.zipWith Sample.mk (points.map Sample.t) (points.map Sample.y) = points := by
  induction points with
  | nil => rfl
  | cons p points ih => rw [List.map_cons, List.map_cons, List.zipWith_cons_cons, ih]

lemma Summarises.batch {threshold : Option (PyFloat α)}
    (hfinite : ∀ line ∈ threshold, line.isFinite = true) {points : List (Sample α)}
    {series : RunningSeries α} (h : Summarises threshold points series) :
    BatchTotals threshold points (TimeSeriesAccumulator.snapshot threshold series) where
  samples := h.samples
  atOrBelow := by
    cases threshold with
    | none => rfl
    | some line => exact congrArg some (h.atOrBelow line rfl)
  fraction line hline count hcount := by
    obtain rfl := Option.mem_def.mp hline
    obtain rfl : series.atOrBelow = count := Option.some.inj hcount
    have hne : points ≠ [] := by
      rintro rfl
      cases h.last
    have hempty : (points.map Sample.y).isEmpty = false := by simpa using hne
    unfold fractionAtOrBelow
    rw [hfinite line rfl, if_neg Bool.true_eq_false.mp, hempty, if_neg Bool.false_ne_true,
      ← h.atOrBelow line rfl, List.length_map, ← h.samples]
    rfl
  integral hlength := by
    unfold trapezoidIntegral
    rw [List.length_map, List.length_map, if_neg (not_not.mpr rfl), if_neg (by omega), zipWith_mk,
      h.integral, Option.filter_some, if_pos h.integral_finite]
    rfl
  single hlength := by
    obtain ⟨p, rfl⟩ := List.length_eq_one_iff.mp hlength
    exact (Option.some.inj h.integral).symm
  first := by rw [List.head?_map, h.first]; rfl
  last := by rw [List.getLast?_map, h.last]; rfl

/-- The totals a dictionary holds for a label, or none. -/
lemma totals_run (threshold : Option (PyFloat α))
    (h : ∀ line ∈ threshold, line.isFinite = true) (feed : List (Fed α)) (label : String) :
    match ((TimeSeriesAccumulator.machine (.exact α)).run (.init threshold h) feed).totals.get?
        label with
    | none => acceptedPoints label feed = []
    | some totals => BatchTotals threshold (acceptedPoints label feed) totals := by
  obtain ⟨hthreshold, hlabels⟩ := tracks_run threshold h feed
  have hlabel := hlabels label
  unfold TimeSeriesAccumulator.totals
  rw [Dict.get?_mapValues, hthreshold]
  cases hseries : ((TimeSeriesAccumulator.machine (.exact α)).run (.init threshold h)
    feed).labels.get? label with
  | none =>
    rw [hseries] at hlabel
    exact hlabel
  | some series =>
    rw [hseries] at hlabel
    exact Summarises.batch h hlabel

end Runs

/-! ## What a run has kept -/

section Kept

variable {σ ε : Type*} (M : Machine σ ε Bool)

/-- The inputs that were answered with `True`, in order. -/
def keptInputs (s : σ) (es : List ε) : List ε :=
  ((es.zip (M.outputs s es)).filter Prod.snd).map Prod.fst

lemma length_outputs {ω : Type*} (M : Machine σ ε ω) (s : σ) (es : List ε) :
    (M.outputs s es).length = es.length := by
  induction es generalizing s with
  | nil => rfl
  | cons e es ih => rw [Machine.outputs_cons, List.length_cons, List.length_cons, ih]

lemma keptInputs_concat (s : σ) (es : List ε) (e : ε) :
    keptInputs M s (es ++ [e]) =
      if (M.step (M.run s es) e).2 = true then keptInputs M s es ++ [e] else keptInputs M s es := by
  unfold keptInputs
  rw [Machine.outputs_append, List.zip_append (length_outputs M s es).symm, List.filter_append,
    List.map_append, Machine.outputs_cons, Machine.outputs_nil]
  split_ifs with hkept <;> simp [hkept]

/-- **What is kept** of one series is what the rule of acceptance picks, when each call answers by
that rule. -/
lemma keptInputs_eq_advancing {α β : Type*} [LinearOrder α] {s : σ} {mine : ε → Bool} {view : ε → β}
    {usable : β → Bool} {stamp : β → PyFloat α}
    (h : ∀ past e, mine e = true → ((M.step (M.run s past) e).2 = true ↔
      usable (view e) = true ∧
        ∀ last ∈ (advancing usable stamp ((past.filter mine).map view)).getLast?,
          stamp last < stamp (view e)))
    (es : List ε) :
    ((keptInputs M s es).filter mine).map view =
      advancing usable stamp ((es.filter mine).map view) := by
  induction es using List.reverseRecOn with
  | nil => rfl
  | append_singleton es e ih =>
    rw [keptInputs_concat, List.filter_append, List.map_append]
    by_cases hmine : mine e = true
    · rw [List.filter_cons_of_pos hmine, List.filter_nil, List.map_cons, List.map_nil,
        advancing_concat, keepNext, ← ih]
      have hanswer := h es e hmine
      rw [← ih] at hanswer
      by_cases hkept : (M.step (M.run s es) e).2 = true
      · rw [if_pos hkept, if_pos (hanswer.mp hkept), List.filter_append, List.map_append,
          List.filter_cons_of_pos hmine]
        rfl
      · rw [if_neg hkept, if_neg fun hk => hkept (hanswer.mpr hk)]
    · rw [List.filter_cons_of_neg hmine, List.filter_nil, List.map_nil, List.append_nil, ← ih]
      split_ifs
      · rw [List.filter_append, List.filter_cons_of_neg hmine, List.filter_nil, List.append_nil]
      · rfl

end Kept

/-- The points of a label that `add` has kept. -/
lemma kept_run {α : Type*} [Field α] [LinearOrder α] [IsStrictOrderedRing α]
    {threshold : Option (PyFloat α)} (h : ∀ line ∈ threshold, line.isFinite = true)
    (feed : List (Fed α)) (label : String) :
    ((keptInputs (TimeSeriesAccumulator.machine (.exact α)) (.init threshold h) feed).filter
      (·.label = label)).map Fed.point = acceptedPoints label feed := by
  refine keptInputs_eq_advancing _ (fun past fed hlabel => ?_) feed
  have hanswer := add_answer h past fed
  rw [of_decide_eq_true hlabel] at hanswer
  exact hanswer

end EvalSdk

end MiniatureWarehouse
