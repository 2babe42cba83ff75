import MiniatureWarehouse.Framework.Runs
import MiniatureWarehouse.Framework.Values

/-!
# The cap on reconnections

A browser on a bad link reconnects in storms, and every reconnection reads the tail of the event
log.  The bridge therefore lets each address connect only so often in any stretch of time: it keeps
the times of the accepted connections, drops those that have left the window, and refuses while
as many as the cap remain.

What has been dropped never matters again, because the clock does not go back.  So the limiter
answers as `Admission` does, which drops nothing: it counts the recent connections of the address,
and a refused call leaves it as it was.
-/

namespace MiniatureWarehouse

namespace WebBridge

/-- A call of `allow`: the address, and the reading of the clock. -/
structure Connection (α : Type*) where
  ip : String
  now : α

/-- `ReconnectRateLimiter`, with the times of the accepted connections of each address, oldest
first. -/
structure ReconnectRateLimiter (α : Type*) where
  max : ℤ
  window : PyFloat α
  hits : Dict String (List α)

lemma getD_set {ν : Type*} (d : Dict String ν) (k : String) (v : ν) (j : String) (e : ν) :
    (d.set k v).getD j e = if j = k then v else d.getD j e := by
  unfold Dict.getD
  rw [Dict.get?_set]
  split_ifs <;> rfl

/-- An address without connections may as well be forgotten. -/
lemma getD_refused {ν : Type*} (d : Dict String (List ν)) (k : String) (v : List ν) (j : String) :
    (if v.isEmpty then d.erase k else d.set k v).getD j [] = if j = k then v else d.getD j [] := by
  by_cases hv : v = []
  · subst hv
    rw [List.isEmpty_nil, if_pos rfl]
    unfold Dict.getD
    rw [Dict.get?_erase]
    split_ifs <;> rfl
  · rw [if_neg (by simpa using hv), getD_set]

variable {α : Type*} [Field α] [LinearOrder α] [IsStrictOrderedRing α] (F : FloatFormat α)

/-- At the time `now` a connection accepted at `t` has left the window. -/
def Expired (window : PyFloat α) (now t : α) : Prop := .fin t ≤ F.sub (.fin now) window

instance (window : PyFloat α) (now t : α) : Decidable (Expired F window now t) :=
  inferInstanceAs (Decidable (_ ≤ _))

namespace ReconnectRateLimiter

/-- A limiter as it is built. -/
def init (maxPerWindow : ℤ) (windowS : PyFloat α) : ReconnectRateLimiter α :=
  ⟨Max.max 1 maxPerWindow, windowS, .empty⟩

/-- `allow`. -/
def allow (limiter : ReconnectRateLimiter α) (c : Connection α) : ReconnectRateLimiter α × Bool :=
  let hits := (limiter.hits.getD c.ip []).dropWhile (Expired F limiter.window c.now ·)
  if limiter.max ≤ hits.length then
    ({ limiter with
        hits := if hits.isEmpty then limiter.hits.erase c.ip else limiter.hits.set c.ip hits },
      false)
  else ({ limiter with hits := limiter.hits.set c.ip (hits ++ [c.now]) }, true)

/-- The limiter under its calls. -/
def machine : Machine (ReconnectRateLimiter α) (Connection α) Bool := ⟨allow F⟩

end ReconnectRateLimiter

/-! ## A limiter that drops nothing -/

/-- The accepted connections of each address, oldest first. -/
abbrev Accepted (α : Type*) := String → List α

/-- The connections that count at the time `now`. -/
def recent (window : PyFloat α) (now : α) (times : List α) : List α :=
  times.filter fun t => ¬ Expired F window now t

/-- A call is accepted when the address has fewer recent connections than the cap. -/
def admitCall (cap : ℤ) (window : PyFloat α) (accepted : Accepted α) (c : Connection α) :
    Accepted α × Bool :=
  if cap ≤ (recent F window c.now (accepted c.ip)).length then (accepted, false)
  else (Function.update accepted c.ip (accepted c.ip ++ [c.now]), true)

/-- The counting limiter under its calls. -/
def Admission (cap : ℤ) (window : PyFloat α) : Machine (Accepted α) (Connection α) Bool :=
  ⟨admitCall F cap window⟩

variable {F}

/-- A connection that has left the window stays out of it. -/
lemma Expired.mono {window : PyFloat α} {now now' t : α} (h : Expired F window now t)
    (hnow : now ≤ now') : Expired F window now' t := by
  unfold Expired at *
  cases window with
  | fin w =>
    have hround : F.round (now + -w) ≤ F.round (now' + -w) := F.round_mono (by linarith)
    exact PyFloat.le_trans h hround
  | nan => exact absurd h PyFloat.not_le_nan
  | posInf => exact h
  | negInf => exact h

/-- So does every connection before it. -/
lemma Expired.older {window : PyFloat α} {now t t' : α} (h : Expired F window now t)
    (ht : t' ≤ t) : Expired F window now t' :=
  PyFloat.le_trans (PyFloat.fin_le_fin.mpr ht) h

/-- In a list that is sorted by time, the connections that have left the window come first. -/
lemma dropWhile_expired {window : PyFloat α} {now : α} {times : List α}
    (hsorted : times.Pairwise (· ≤ ·)) :
    times.dropWhile (Expired F window now ·) = recent F window now times := by
  induction times with
  | nil => rfl
  | cons t times ih =>
    obtain ⟨hfirst, hrest⟩ := List.pairwise_cons.mp hsorted
    by_cases ht : Expired F window now t
    · have hrec : recent F window now (t :: times) = recent F window now times :=
        List.filter_cons_of_neg (by simpa using ht)
      rw [List.dropWhile_cons_of_pos (by simpa using ht), ih hrest, hrec]
    · rw [List.dropWhile_cons_of_neg (by simpa using ht)]
      have hall : ∀ t' ∈ t :: times, ¬ Expired F window now t' := by
        intro t' ht' hexpired
        rcases List.mem_cons.mp ht' with rfl | ht'
        · exact ht hexpired
        · exact ht (hexpired.older (hfirst t' ht'))
      exact (List.filter_eq_self.mpr fun t' ht' => by simpa using hall t' ht').symm

/-- What counted at an earlier time is all that can count now. -/
lemma recent_recent {window : PyFloat α} {now now' : α} (hnow : now ≤ now') (times : List α) :
    recent F window now' (recent F window now times) = recent F window now' times := by
  unfold recent
  rw [List.filter_filter]
  refine List.filter_congr fun t _ => ?_
  by_cases h' : Expired F window now' t
  · simp [h']
  · have h : ¬ Expired F window now t := fun h => h' (h.mono hnow)
    simp [h, h']

/-! ## The limiter counts -/

/-- The limiter holds the connections that can still count, from the time `T` on. -/
structure Tracks (cap : ℤ) (window : PyFloat α) (T : α) (limiter : ReconnectRateLimiter α)
    (accepted : Accepted α) : Prop where
  max_eq : limiter.max = cap
  window_eq : limiter.window = window
  sorted : ∀ ip, (accepted ip).Pairwise (· ≤ ·)
  before : ∀ ip, ∀ t ∈ accepted ip, t ≤ T
  suffix : ∀ ip, limiter.hits.getD ip [] <:+ accepted ip
  recent_eq : ∀ ip now, T ≤ now →
    recent F window now (limiter.hits.getD ip []) = recent F window now (accepted ip)

lemma tracks_init (maxPerWindow : ℤ) (window : PyFloat α) (T : α) :
    Tracks (F := F) (max 1 maxPerWindow) window T (.init maxPerWindow window) fun _ => [] where
  max_eq := rfl
  window_eq := rfl
  sorted _ := .nil
  before _ _ ht := absurd ht List.not_mem_nil
  suffix _ := List.suffix_refl []
  recent_eq _ _ _ := rfl

section Step

variable {cap : ℤ} {window : PyFloat α} {T : α} {limiter : ReconnectRateLimiter α}
  {accepted : Accepted α}

/-- The connections the limiter counts are those that count. -/
lemma Tracks.hits_eq (h : Tracks (F := F) cap window T limiter accepted) {c : Connection α}
    (hT : T ≤ c.now) :
    (limiter.hits.getD c.ip []).dropWhile (Expired F limiter.window c.now ·) =
      recent F window c.now (accepted c.ip) := by
  have hsorted : (limiter.hits.getD c.ip []).Pairwise (· ≤ ·) :=
    (h.sorted c.ip).sublist (h.suffix c.ip).sublist
  rw [h.window_eq, dropWhile_expired hsorted, h.recent_eq c.ip c.now hT]

/-- **One call.**  The limiter answers as the counting one does, and tracks it. -/
lemma Tracks.allow (h : Tracks (F := F) cap window T limiter accepted) {c : Connection α}
    (hT : T ≤ c.now) :
    (limiter.allow F c).2 = (admitCall F cap window accepted c).2 ∧
      Tracks (F := F) cap window c.now (limiter.allow F c).1
        (admitCall F cap window accepted c).1 := by
  have hsuffix : recent F window c.now (accepted c.ip) <:+ accepted c.ip := by
    rw [← h.hits_eq hT]
    exact (List.dropWhile_suffix _).trans (h.suffix c.ip)
  unfold ReconnectRateLimiter.allow admitCall
  dsimp only
  rw [h.hits_eq hT, h.max_eq]
  by_cases hcap : cap ≤ (recent F window c.now (accepted c.ip)).length
  · rw [if_pos hcap, if_pos hcap]
    refine ⟨rfl, rfl, h.window_eq, h.sorted, fun ip t ht => (h.before ip t ht).trans hT, ?_, ?_⟩
    · intro ip
      dsimp only
      rw [getD_refused]
      split_ifs with hip
      · rwa [hip]
      · exact h.suffix ip
    · intro ip now hnow
      dsimp only
      rw [getD_refused]
      split_ifs with hip
      · rw [hip, recent_recent hnow]
      · exact h.recent_eq ip now (hT.trans hnow)
  · rw [if_neg hcap, if_neg hcap]
    refine ⟨rfl, rfl, h.window_eq, ?_, ?_, ?_, ?_⟩
    · intro ip
      dsimp only
      by_cases hip : ip = c.ip
      · subst hip
        rw [Function.update_self, List.pairwise_append]
        refine ⟨h.sorted c.ip, List.pairwise_singleton _ _, fun t ht t' ht' => ?_⟩
        rw [List.mem_singleton.mp ht']
        exact (h.before c.ip t ht).trans hT
      · rw [Function.update_of_ne hip]
        exact h.sorted ip
    · intro ip t ht
      dsimp only at ht
      by_cases hip : ip = c.ip
      · subst hip
        rw [Function.update_self] at ht
        rcases List.mem_append.mp ht with ht | ht
        · exact (h.before c.ip t ht).trans hT
        · exact (List.mem_singleton.mp ht).le
      · rw [Function.update_of_ne hip] at ht
        exact (h.before ip t ht).trans hT
    · intro ip
      dsimp only
      rw [getD_set]
      split_ifs with hip
      · subst hip
        rw [Function.update_self]
        obtain ⟨dropped, hdropped⟩ := hsuffix
        exact ⟨dropped, by rw [← List.append_assoc, hdropped]⟩
      · rw [Function.update_of_ne hip]
        exact h.suffix ip
    · intro ip now hnow
      dsimp only
      rw [getD_set]
      split_ifs with hip
      · subst hip
        rw [Function.update_self]
        unfold recent at *
        rw [List.filter_append, List.filter_append]
        congr 1
        exact recent_recent hnow (accepted c.ip)
      · rw [Function.update_of_ne hip]
        exact h.recent_eq ip now (hT.trans hnow)

end Step

/-- The clock does not go back. -/
def ClockAdvances (calls : List (Connection α)) : Prop :=
  calls.Pairwise fun c c' => c.now ≤ c'.now

/-- **Every run.**  The limiter answers as the counting one does. -/
lemma Tracks.run {cap : ℤ} {window : PyFloat α} {T : α} {limiter : ReconnectRateLimiter α}
    {accepted : Accepted α} (h : Tracks (F := F) cap window T limiter accepted)
    {calls : List (Connection α)} (hclock : ClockAdvances calls) (hT : ∀ c ∈ calls, T ≤ c.now) :
    (ReconnectRateLimiter.machine F).outputs limiter calls =
        (Admission F cap window).outputs accepted calls ∧
      ∀ T', T ≤ T' → (∀ c ∈ calls, c.now ≤ T') →
        Tracks (F := F) cap window T' ((ReconnectRateLimiter.machine F).run limiter calls)
          ((Admission F cap window).run accepted calls) := by
  induction calls generalizing T limiter accepted with
  | nil =>
    refine ⟨rfl, fun T' hT' _ => ?_⟩
    exact ⟨h.max_eq, h.window_eq, h.sorted, fun ip t ht => (h.before ip t ht).trans hT', h.suffix,
      fun ip now hnow => h.recent_eq ip now (hT'.trans hnow)⟩
  | cons c calls ih =>
    obtain ⟨hfirst, hrest⟩ := List.pairwise_cons.mp hclock
    obtain ⟨hanswer, hnext⟩ := h.allow (hT c List.mem_cons_self)
    obtain ⟨houts, hruns⟩ := ih hnext hrest hfirst
    refine ⟨?_, fun T' _ hT' => ?_⟩
    · rw [Machine.outputs_cons, Machine.outputs_cons]
      exact congrArg₂ List.cons hanswer houts
    · exact hruns T' (hT' c List.mem_cons_self) fun c' hc' => hT' c' (List.mem_cons_of_mem c hc')

/-! ## What the cap guarantees -/

/-- The times of the accepted calls of an address, given the answers. -/
def acceptedTimes (ip : String) (calls : List (Connection α)) (answers : List Bool) : List α :=
  ((calls.zip answers).filter fun a => a.2 && a.1.ip = ip).map fun a => a.1.now

/-- The calls of an address with their answers. -/
def answersTo (ip : String) (calls : List (Connection α)) (answers : List Bool) :
    List (Connection α × Bool) :=
  (calls.zip answers).filter fun a => a.1.ip = ip

/-- The time lies in the half-open window that opens at `start`. -/
def OpenedAt (F : FloatFormat α) (window : PyFloat α) (start t : α) : Prop :=
  start ≤ t ∧ ¬ Expired F window t start

/-- The time lies in the half-open window that closes at `stop`. -/
def ClosedAt (F : FloatFormat α) (window : PyFloat α) (stop t : α) : Prop :=
  t ≤ stop ∧ ¬ Expired F window stop t

instance (window : PyFloat α) (start t : α) : Decidable (OpenedAt F window start t) :=
  inferInstanceAs (Decidable (_ ∧ _))

instance (window : PyFloat α) (stop t : α) : Decidable (ClosedAt F window stop t) :=
  inferInstanceAs (Decidable (_ ∧ _))

/-- Over exact arithmetic the two windows are the half-open intervals of that length. -/
lemma openedAt_exact {w start t : α} :
    OpenedAt (.exact α) (.fin w) start t ↔ start ≤ t ∧ t < start + w := by
  have hexpired : Expired (.exact α) (.fin w) t start ↔ start ≤ t + -w := Iff.rfl
  rw [OpenedAt, hexpired, not_le, ← sub_eq_add_neg, sub_lt_iff_lt_add]

lemma closedAt_exact {w stop t : α} :
    ClosedAt (.exact α) (.fin w) stop t ↔ stop - w < t ∧ t ≤ stop := by
  have hexpired : Expired (.exact α) (.fin w) stop t ↔ t ≤ stop + -w := Iff.rfl
  rw [ClosedAt, hexpired, not_le, ← sub_eq_add_neg, and_comm]

/-- No two times of the set are as far apart as the window is long. -/
def Short (F : FloatFormat α) (window : PyFloat α) (times : α → Prop) : Prop :=
  ∀ t t', t ≤ t' → times t → times t' → ¬ Expired F window t' t

lemma short_openedAt (window : PyFloat α) (start : α) :
    Short F window (OpenedAt F window start) := by
  intro t t' _ ht ht' hexpired
  exact ht'.2 (hexpired.older ht.1)

lemma short_closedAt (window : PyFloat α) (stop : α) :
    Short F window (ClosedAt F window stop) := by
  intro t t' _ ht ht' hexpired
  exact ht.2 (hexpired.mono ht'.1)

section Admission

variable {cap : ℤ} {window : PyFloat α}

omit [Field α] [LinearOrder α] [IsStrictOrderedRing α] in
lemma acceptedTimes_cons (ip : String) (c : Connection α) (calls : List (Connection α))
    (answer : Bool) (answers : List Bool) :
    acceptedTimes ip (c :: calls) (answer :: answers) =
      (if answer = true ∧ c.ip = ip then [c.now] else []) ++ acceptedTimes ip calls answers := by
  unfold acceptedTimes
  rw [List.zip_cons_cons, List.filter_cons]
  split_ifs <;> simp_all

/-- The counting limiter knows the connections it has accepted. -/
lemma run_admission (accepted : Accepted α) (calls : List (Connection α)) (ip : String) :
    (Admission F cap window).run accepted calls ip =
      accepted ip ++ acceptedTimes ip calls ((Admission F cap window).outputs accepted calls) := by
  induction calls generalizing accepted with
  | nil => exact (List.append_nil _).symm
  | cons c calls ih =>
    rw [Machine.run_cons, ih, Machine.outputs_cons, acceptedTimes_cons, ← List.append_assoc]
    congr 1
    show (admitCall F cap window accepted c).1 ip =
      accepted ip ++ if (admitCall F cap window accepted c).2 = true ∧ c.ip = ip then [c.now] else []
    unfold admitCall
    by_cases hcap : cap ≤ (recent F window c.now (accepted c.ip)).length
    · rw [if_pos hcap, if_neg fun h => Bool.false_ne_true h.1, List.append_nil]
    · rw [if_neg hcap]
      by_cases hip : c.ip = ip
      · rw [if_pos ⟨rfl, hip⟩]
        subst hip
        exact Function.update_self _ _ _
      · rw [if_neg fun h => hip h.2, List.append_nil]
        exact Function.update_of_ne (Ne.symm hip) _ _

/-- A call leaves the other addresses alone. -/
lemma admit_of_ne (accepted : Accepted α) {c : Connection α} {ip : String} (hip : c.ip ≠ ip) :
    (admitCall F cap window accepted c).1 ip = accepted ip := by
  unfold admitCall
  split_ifs
  · rfl
  · exact Function.update_of_ne (Ne.symm hip) _ _

variable (F cap window) in
/-- The answer to an address depends on its own connections alone, and so does what they become. -/
lemma admit_congr {accepted accepted' : Accepted α} {c : Connection α}
    (h : accepted c.ip = accepted' c.ip) :
    (admitCall F cap window accepted c).2 = (admitCall F cap window accepted' c).2 ∧
      (admitCall F cap window accepted c).1 c.ip = (admitCall F cap window accepted' c).1 c.ip := by
  unfold admitCall
  rw [h]
  split_ifs
  · exact ⟨rfl, h⟩
  · refine ⟨rfl, ?_⟩
    dsimp only
    rw [Function.update_self, Function.update_self]

/-- **Noninterference.**  An address is answered as if the others had not called. -/
lemma answersTo_admission {accepted accepted' : Accepted α} {ip : String}
    (h : accepted ip = accepted' ip) (calls : List (Connection α)) :
    answersTo ip calls ((Admission F cap window).outputs accepted calls) =
      (calls.filter (·.ip = ip)).zip
        ((Admission F cap window).outputs accepted' (calls.filter (·.ip = ip))) := by
  induction calls generalizing accepted accepted' with
  | nil => rfl
  | cons c calls ih =>
    unfold answersTo at *
    rw [Machine.outputs_cons, List.zip_cons_cons]
    by_cases hip : c.ip = ip
    · subst hip
      obtain ⟨hanswer, hnext⟩ := admit_congr F cap window h
      rw [List.filter_cons_of_pos (by simp), List.filter_cons_of_pos (by simp),
        Machine.outputs_cons, List.zip_cons_cons]
      exact congrArg₂ List.cons (congrArg (Prod.mk c) hanswer) (ih hnext)
    · have hsame : (admitCall F cap window accepted c).1 ip = accepted' ip :=
        (admit_of_ne accepted hip).trans h
      rw [List.filter_cons_of_neg (by simpa using hip),
        List.filter_cons_of_neg (by simpa using hip)]
      exact ih hsame

/-- A refused call has found the cap reached, and changes nothing. -/
lemma admit_refused {accepted : Accepted α} {c : Connection α}
    (h : (admitCall F cap window accepted c).2 = false) :
    cap ≤ (recent F window c.now (accepted c.ip)).length ∧
      (admitCall F cap window accepted c).1 = accepted := by
  unfold admitCall at *
  by_cases hcap : cap ≤ (recent F window c.now (accepted c.ip)).length
  · exact ⟨hcap, by rw [if_pos hcap]⟩
  · rw [if_neg hcap] at h
    exact absurd h.symm Bool.false_ne_true

/-- Every connection was accepted at the time of some call. -/
lemma exists_call_of_mem_run {calls : List (Connection α)} {ip : String} {t : α}
    (ht : t ∈ (Admission F cap window).run (fun _ => []) calls ip) : ∃ c ∈ calls, c.now = t := by
  rw [run_admission, List.nil_append] at ht
  obtain ⟨a, ha, rfl⟩ := List.mem_map.mp ht
  exact ⟨a.1, (List.of_mem_zip (List.mem_filter.mp ha).1).1, rfl⟩

/-- **The cap.**  A short set of times holds at most the cap of the connections of an address. -/
lemma length_filter_run_le (hcap : 0 ≤ cap) {times : α → Prop} [DecidablePred times]
    (hshort : Short F window times) {calls : List (Connection α)} (hclock : ClockAdvances calls)
    (ip : String) :
    ((((Admission F cap window).run (fun _ => []) calls ip).filter (times ·)).length : ℤ) ≤ cap := by
  induction calls using List.reverseRecOn with
  | nil => exact hcap
  | append_singleton calls c ih =>
    obtain ⟨hbefore, -, hlast⟩ := List.pairwise_append.mp hclock
    have hold := ih hbefore
    rw [Machine.run_concat]
    show (((admitCall F cap window _ c).1 ip).filter (times ·)).length ≤ cap
    generalize hrun : (Admission F cap window).run (fun _ => []) calls = accepted at hold ⊢
    unfold admitCall
    split_ifs with hfull
    · exact hold
    · dsimp only
      by_cases hip : ip = c.ip
      · subst hip
        rw [Function.update_self, List.filter_append]
        by_cases hnow : times c.now
        · -- what the set holds so far still counts at this call
          have hcounts : (accepted c.ip).filter (times ·) =
              (recent F window c.now (accepted c.ip)).filter (times ·) := by
            unfold recent
            rw [List.filter_filter]
            refine List.filter_congr fun t ht => ?_
            rw [← hrun] at ht
            obtain ⟨c', hc', rfl⟩ := exists_call_of_mem_run ht
            have hle : c'.now ≤ c.now := hlast c' hc' c List.mem_cons_self
            by_cases htimes : times c'.now
            · simpa [htimes] using hshort _ _ hle htimes hnow
            · simp [htimes]
          have hsub : ((accepted c.ip).filter (times ·)).length ≤
              (recent F window c.now (accepted c.ip)).length := by
            rw [hcounts]
            exact List.length_filter_le _ _
          rw [List.filter_cons_of_pos (by simpa using hnow), List.filter_nil, List.length_append,
            List.length_singleton]
          omega
        · rw [List.filter_cons_of_neg (by simpa using hnow), List.filter_nil, List.append_nil]
          exact hold
      · rw [Function.update_of_ne hip]
        exact hold

end Admission

/-! ## The limiter of the bridge -/

section Limiter

variable {maxPerWindow : ℤ} {window : PyFloat α}

variable (F maxPerWindow window) in
/-- After any calls the limiter tracks the counting one. -/
lemma tracks_run {past : List (Connection α)} (hclock : ClockAdvances past) {T : α}
    (hT : ∀ c ∈ past, c.now ≤ T) :
    Tracks (F := F) (max 1 maxPerWindow) window T
      ((ReconnectRateLimiter.machine F).run (.init maxPerWindow window) past)
      ((Admission F (max 1 maxPerWindow) window).run (fun _ => []) past) := by
  cases past with
  | nil => exact tracks_init maxPerWindow window T
  | cons c past =>
    have hfirst : ∀ c' ∈ c :: past, c.now ≤ c'.now := by
      intro c' hc'
      rcases List.mem_cons.mp hc' with rfl | hc'
      · exact le_rfl
      · exact (List.pairwise_cons.mp hclock).1 c' hc'
    exact ((tracks_init maxPerWindow window c.now).run hclock hfirst).2 T
      (hT c List.mem_cons_self) hT

lemma outputs_eq (past : List (Connection α)) {rest : List (Connection α)}
    (hclock : ClockAdvances (past ++ rest)) :
    (ReconnectRateLimiter.machine F).outputs
        ((ReconnectRateLimiter.machine F).run (.init maxPerWindow window) past) rest =
      (Admission F (max 1 maxPerWindow) window).outputs
        ((Admission F (max 1 maxPerWindow) window).run (fun _ => []) past) rest := by
  obtain ⟨hpast, hrest, hacross⟩ := List.pairwise_append.mp hclock
  cases rest with
  | nil => rfl
  | cons c rest =>
    have hfirst : ∀ c' ∈ c :: rest, c.now ≤ c'.now := by
      intro c' hc'
      rcases List.mem_cons.mp hc' with rfl | hc'
      · exact le_rfl
      · exact (List.pairwise_cons.mp hrest).1 c' hc'
    have htracks := tracks_run F maxPerWindow window hpast
      fun c' hc' => hacross c' hc' c List.mem_cons_self
    exact (htracks.run hrest hfirst).1

/-- **Reconnections are limited.**  A half-open window holds at most the cap of the accepted calls
of an address; a call is refused only when as many were accepted in the window before it; and the
answers to an address depend neither on the calls of another one nor on calls that were refused. -/
theorem reconnects_limited (F : FloatFormat α) (maxPerWindow : ℤ) (window : PyFloat α)
    (calls : List (Connection α)) (hclock : ClockAdvances calls) :
    let M := ReconnectRateLimiter.machine F
    let limiter := ReconnectRateLimiter.init maxPerWindow window
    let cap := max 1 maxPerWindow
    (∀ ip start, (((acceptedTimes ip calls (M.outputs limiter calls)).filter
      (OpenedAt F window start ·)).length : ℤ) ≤ cap) ∧
    (∀ ip stop, (((acceptedTimes ip calls (M.outputs limiter calls)).filter
      (ClosedAt F window stop ·)).length : ℤ) ≤ cap) ∧
    (∀ past c rest, calls = past ++ c :: rest → (M.step (M.run limiter past) c).2 = false →
      cap ≤ (recent F window c.now
        (acceptedTimes c.ip past (M.outputs limiter past))).length) ∧
    (∀ ip, answersTo ip calls (M.outputs limiter calls) =
      (calls.filter (·.ip = ip)).zip (M.outputs limiter (calls.filter (·.ip = ip)))) ∧
    ∀ past c rest, calls = past ++ c :: rest → (M.step (M.run limiter past) c).2 = false →
      M.outputs (M.run limiter (past ++ [c])) rest = M.outputs (M.run limiter past) rest := by
  intro M limiter cap
  have hcap : 0 ≤ cap := zero_le_one.trans (le_max_left 1 maxPerWindow)
  have houts : M.outputs limiter calls = (Admission F cap window).outputs (fun _ => []) calls :=
    outputs_eq [] hclock
  have hrun (ip : String) : acceptedTimes ip calls (M.outputs limiter calls) =
      (Admission F cap window).run (fun _ => []) calls ip := by
    rw [houts, run_admission, List.nil_append]
  -- a call that is refused is refused by the counting limiter as well
  have hrefused (past : List (Connection α)) (c : Connection α) (rest : List (Connection α))
      (hcalls : calls = past ++ c :: rest) (h : (M.step (M.run limiter past) c).2 = false) :
      (admitCall F cap window ((Admission F cap window).run (fun _ => []) past) c).2 = false := by
    subst hcalls
    obtain ⟨hpast, -, hacross⟩ := List.pairwise_append.mp hclock
    have htracks := tracks_run F maxPerWindow window hpast
      fun c' hc' => hacross c' hc' c List.mem_cons_self
    rw [← (htracks.allow le_rfl).1]
    exact h
  refine ⟨fun ip start => ?_, fun ip stop => ?_, ?_, fun ip => ?_, ?_⟩
  · rw [hrun]
    exact length_filter_run_le hcap (short_openedAt window start) hclock ip
  · rw [hrun]
    exact length_filter_run_le hcap (short_closedAt window stop) hclock ip
  · intro past c rest hcalls h
    have hfull := (admit_refused (hrefused past c rest hcalls h)).1
    have hpast : ClockAdvances past := by
      rw [hcalls] at hclock
      exact (List.pairwise_append.mp hclock).1
    have houtsPast : M.outputs limiter past =
        (Admission F cap window).outputs (fun _ => []) past :=
      outputs_eq [] hpast
    rw [run_admission, List.nil_append] at hfull
    rwa [houtsPast]
  · have hfilter : ClockAdvances (calls.filter (·.ip = ip)) := hclock.sublist List.filter_sublist
    have houtsFilter : M.outputs limiter (calls.filter (·.ip = ip)) =
        (Admission F cap window).outputs (fun _ => []) (calls.filter (·.ip = ip)) :=
      outputs_eq [] hfilter
    rw [houts, houtsFilter]
    exact answersTo_admission rfl calls
  · intro past c rest hcalls h
    have hsame := (admit_refused (hrefused past c rest hcalls h)).2
    subst hcalls
    have hskip : ClockAdvances (past ++ rest) :=
      hclock.sublist (List.Sublist.append_left (List.sublist_cons_self c rest) past)
    have hsplit : past ++ c :: rest = past ++ [c] ++ rest := by simp
    rw [hsplit] at hclock
    have hafter : M.outputs (M.run limiter (past ++ [c])) rest =
        (Admission F cap window).outputs
          ((Admission F cap window).run (fun _ => []) (past ++ [c])) rest := outputs_eq _ hclock
    have hbefore : M.outputs (M.run limiter past) rest =
        (Admission F cap window).outputs ((Admission F cap window).run (fun _ => []) past) rest :=
      outputs_eq past hskip
    rw [hafter, hbefore, Machine.run_concat]
    exact congrArg (fun accepted => (Admission F cap window).outputs accepted rest) hsame

end Limiter

/-- Four calls of one address and one of another, for a cap of two in ten seconds. -/
def storm : List (Connection ℚ) := [⟨"a", 0⟩, ⟨"a", 1⟩, ⟨"b", 1⟩, ⟨"a", 9⟩, ⟨"a", 10⟩]

theorem reconnects_limited_storm :
    (ReconnectRateLimiter.machine (.exact ℚ)).outputs (.init 2 (.fin 10)) storm =
        [true, true, true, false, true] ∧
      ((acceptedTimes "a" storm ((ReconnectRateLimiter.machine (.exact ℚ)).outputs
        (.init 2 (.fin 10)) storm)).filter (OpenedAt (.exact ℚ) (.fin 10) 1 ·)).length ≤ 2 := by
  refine ⟨by decide +kernel, ?_⟩
  have hclock : ClockAdvances storm := by
    unfold ClockAdvances
    decide +kernel
  exact_mod_cast (reconnects_limited (.exact ℚ) 2 (.fin 10) storm hclock).1 "a" 1

/-- A cap of zero lets one call through. -/
theorem cap_zero_accepts_one :
    ¬ (((acceptedTimes "a" [⟨"a", 0⟩] ((ReconnectRateLimiter.machine (.exact ℚ)).outputs
      (.init 0 (.fin 5)) [⟨"a", 0⟩])).filter (OpenedAt (.exact ℚ) (.fin 5) 0 ·)).length : ℤ) ≤
        0 := by
  decide +kernel

end WebBridge

end MiniatureWarehouse
