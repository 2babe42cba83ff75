import MiniatureWarehouse.Framework.Floats
import MiniatureWarehouse.Framework.Runs
import Mathlib.Data.List.Induction
import Mathlib.Algebra.Order.Field.Rat

/-!
# The freshness of the video

The freeze detector of the operator's video.  A frame is offered with the stamp its sender wrote, the
shared wall clock and the monotonic clock of this host.  A stamp too far from the wall clock is
refused, and so is one that is not newer than the last one accepted; the age of the picture is judged
by the arrival of the last frame accepted.

Which frame that is depends on all frames offered before it, but not on what became of them:
`video_shows_newest` says that it is the first of the newest among the timely frames since the last
reset.  A frame that was refused leaves no trace, and a late or repeated one cannot pass for a new
picture.
-/

namespace MiniatureWarehouse

namespace OperatorLink

/-- `VideoState`. -/
inductive VideoState
  | fresh
  | stale
  | absent
  deriving DecidableEq, Repr

/-- A frame, as it is offered: the stamp, and the readings of the two clocks. -/
structure VideoFrame (α : Type) where
  stampS : PyFloat α
  nowWallS : PyFloat α
  nowMonoS : PyFloat α

/-- The limits of `VideoFreshness`, as its constructor admits them. -/
structure VideoLimits (α : Type) [Field α] [LinearOrder α] where
  staleAfterS : α
  maxStampSkewS : α
  stale_pos : 0 < staleAfterS
  skew_nonneg : 0 ≤ maxStampSkewS

/-- The state of `VideoFreshness`. -/
structure VideoFreshness (α : Type) where
  lastStampS : Option α
  lastArrivalMonoS : Option α

/-- A call of the detector. -/
inductive VideoCall (α : Type)
  | frame (frame : VideoFrame α)
  | verdict (nowMonoS : PyFloat α)
  | reset

/-- What a call returns. -/
inductive VideoReply
  | accepted (b : Bool)
  | verdict (v : VideoState)
  | done
  deriving DecidableEq

namespace VideoFreshness

variable {α : Type} [Field α] [LinearOrder α] [IsStrictOrderedRing α] (F : FloatFormat α)
  (V : VideoLimits α)

/-- The detector as it is built, and after `reset`. -/
def empty : VideoFreshness α := ⟨none, none⟩

/-- `observe_frame`. -/
def observeFrame (s : VideoFreshness α) (f : VideoFrame α) : VideoFreshness α × Bool :=
  match f.stampS, f.nowWallS, f.nowMonoS with
  | .fin stamp, .fin wall, .fin mono =>
    if .fin V.maxStampSkewS < (F.sub (.fin stamp) (.fin wall)).abs then (s, false)
    else
      match s.lastStampS with
      | none => (⟨some stamp, some mono⟩, true)
      | some last => if stamp ≤ last then (s, false) else (⟨some stamp, some mono⟩, true)
  | _, _, _ => (s, false)

/-- `verdict`. -/
def verdict (s : VideoFreshness α) (nowMonoS : PyFloat α) : VideoState :=
  match s.lastArrivalMonoS with
  | none => .absent
  | some last =>
    match nowMonoS with
    | .fin now =>
      let age := F.sub (.fin now) (.fin last)
      if age < .fin 0 ∨ .fin V.staleAfterS < age then .stale else .fresh
    | _ => .stale

/-- The detector as a machine. -/
def machine : Machine (VideoFreshness α) (VideoCall α) VideoReply where
  step s
    | .frame f => ((observeFrame F V s f).1, .accepted (observeFrame F V s f).2)
    | .verdict now => (s, .verdict (verdict F V s now))
    | .reset => (empty, .done)

/-! ## What was offered -/

/-- The stamp and the arrival of a frame whose stamp is close enough to the wall clock. -/
def timely? (f : VideoFrame α) : Option (α × α) :=
  match f.stampS, f.nowWallS, f.nowMonoS with
  | .fin stamp, .fin wall, .fin mono =>
    if .fin V.maxStampSkewS < (F.sub (.fin stamp) (.fin wall)).abs then none
    else some (stamp, mono)
  | _, _, _ => none

/-- The timely frames since the last reset, in the order they were offered. -/
def timelySince (past : List (VideoCall α)) : List (α × α) :=
  ((past.reverse.takeWhile fun | .reset => false | _ => true).reverse).filterMap fun
    | .frame f => timely? F V f
    | _ => none

/-- The frame is the first of the newest ones. -/
def FirstNewest (frames : List (α × α)) (x : α × α) : Prop :=
  ∃ before after, frames = before ++ x :: after ∧
    (∀ y ∈ before, y.1 < x.1) ∧ ∀ y ∈ after, y.1 ≤ x.1

variable {F V}

lemma timelySince_frame (past : List (VideoCall α)) (f : VideoFrame α) :
    timelySince F V (past ++ [.frame f]) = timelySince F V past ++ (timely? F V f).toList := by
  unfold timelySince
  cases h : timely? F V f <;> simp [h]

lemma timelySince_verdict (past : List (VideoCall α)) (now : PyFloat α) :
    timelySince F V (past ++ [.verdict now]) = timelySince F V past := by
  simp [timelySince]

lemma timelySince_reset (past : List (VideoCall α)) :
    timelySince F V (past ++ [.reset]) = [] := by
  simp [timelySince]

/-- What a frame does, said through its timeliness. -/
lemma observeFrame_eq (s : VideoFreshness α) (f : VideoFrame α) :
    observeFrame F V s f =
      match timely? F V f with
      | none => (s, false)
      | some x =>
        match s.lastStampS with
        | none => (⟨some x.1, some x.2⟩, true)
        | some last => if x.1 ≤ last then (s, false) else (⟨some x.1, some x.2⟩, true) := by
  unfold observeFrame timely?
  rcases f with ⟨_ | _ | _ | _, _ | _ | _ | _, _ | _ | _ | _⟩ <;> try rfl
  simp only
  split_ifs <;> rfl

omit [Field α] [IsStrictOrderedRing α] in
/-- A frame that is not newer leaves the first of the newest ones where it is. -/
lemma FirstNewest.concat_old {frames : List (α × α)} {x y : α × α} (h : FirstNewest frames x)
    (hy : y.1 ≤ x.1) : FirstNewest (frames ++ [y]) x := by
  obtain ⟨before, after, rfl, hbefore, hafter⟩ := h
  refine ⟨before, after ++ [y], by simp, hbefore, ?_⟩
  intro z hz
  rcases List.mem_append.mp hz with hz | hz
  · exact hafter z hz
  · rw [List.mem_singleton.mp hz]
    exact hy

omit [Field α] [IsStrictOrderedRing α] in
/-- A frame newer than all before it is the first of the newest ones. -/
lemma firstNewest_concat {frames : List (α × α)} {y : α × α} (h : ∀ x ∈ frames, x.1 < y.1) :
    FirstNewest (frames ++ [y]) y :=
  ⟨frames, [], rfl, h, fun _ hz => absurd hz List.not_mem_nil⟩

omit [Field α] [IsStrictOrderedRing α] in
lemma FirstNewest.le {frames : List (α × α)} {x : α × α} (h : FirstNewest frames x) :
    ∀ y ∈ frames, y.1 ≤ x.1 := by
  obtain ⟨before, after, rfl, hbefore, hafter⟩ := h
  intro y hy
  rcases List.mem_append.mp hy with hy | hy
  · exact (hbefore y hy).le
  · rcases List.mem_cons.mp hy with rfl | hy
    · exact le_rfl
    · exact hafter y hy

omit [Field α] [IsStrictOrderedRing α] in
lemma FirstNewest.mem {frames : List (α × α)} {x : α × α} (h : FirstNewest frames x) :
    x ∈ frames := by
  obtain ⟨before, after, rfl, -, -⟩ := h
  exact List.mem_append_right _ List.mem_cons_self

omit [Field α] [IsStrictOrderedRing α] in
/-- There is only one first of the newest frames. -/
lemma FirstNewest.unique {frames : List (α × α)} {x y : α × α} (hx : FirstNewest frames x)
    (hy : FirstNewest frames y) : x = y := by
  have heq : x.1 = y.1 := le_antisymm (hy.le x hx.mem) (hx.le y hy.mem)
  obtain ⟨bx, ax, rfl, hbx, -⟩ := hx
  obtain ⟨bY, aY, hsplit, hbY, -⟩ := hy
  rcases List.append_eq_append_iff.mp hsplit with ⟨c, hb, hc⟩ | ⟨c, hb, hc⟩
  · cases c with
    | nil => exact (List.cons.inj hc).1
    | cons z c =>
      -- `x` would stand before `y`
      have hz : x = z := (List.cons.inj hc).1
      have hlt := hbY x (by rw [hb, hz]; exact List.mem_append_right _ List.mem_cons_self)
      exact absurd heq hlt.ne
  · cases c with
    | nil => exact (List.cons.inj hc).1.symm
    | cons z c =>
      have hz : y = z := (List.cons.inj hc).1
      have hlt := hbx y (by rw [hb, hz]; exact List.mem_append_right _ List.mem_cons_self)
      exact absurd heq hlt.ne'

/-! ## The detector over a run of calls -/

/-- The detector remembers the first of the newest frames, if there is a frame. -/
inductive Remembers (frames : List (α × α)) : VideoFreshness α → Prop
  | unseen (h : frames = []) : Remembers frames empty
  | seen {x : α × α} (h : FirstNewest frames x) : Remembers frames ⟨some x.1, some x.2⟩

omit [Field α] [IsStrictOrderedRing α] in
/-- What is newer than the remembered stamp is newer than every frame. -/
lemma Remembers.newer_iff {frames : List (α × α)} {x : α × α} (h : FirstNewest frames x) (t : α) :
    ¬ t ≤ x.1 ↔ ∀ y ∈ frames, y.1 < t := by
  rw [not_le]
  exact ⟨fun ht y hy => (h.le y hy).trans_lt ht, fun ht => ht x h.mem⟩

/-- The step of a frame: it is accepted exactly when it is timely and newer than all before it. -/
lemma Remembers.frame {frames : List (α × α)} {s : VideoFreshness α} (h : Remembers frames s)
    (f : VideoFrame α) :
    Remembers (frames ++ (timely? F V f).toList) (observeFrame F V s f).1 ∧
      ((observeFrame F V s f).2 = true ↔
        ∃ x, timely? F V f = some x ∧ ∀ y ∈ frames, y.1 < x.1) := by
  rw [observeFrame_eq]
  cases htimely : timely? F V f with
  | none => simpa using h
  | some x =>
    cases h with
    | unseen hframes =>
      subst hframes
      refine ⟨.seen (firstNewest_concat fun y hy => absurd hy List.not_mem_nil), ?_⟩
      simp [empty]
    | @seen last hlast =>
      by_cases hold : x.1 ≤ last.1
      · simp only [hold, if_true, Option.toList_some]
        refine ⟨.seen (hlast.concat_old hold), ?_⟩
        simp only [Bool.false_eq_true, false_iff]
        rintro ⟨y, hy, hnewer⟩
        rw [← Option.some.inj hy] at hnewer
        exact (Remembers.newer_iff hlast x.1).mpr hnewer hold
      · have hnewer := (Remembers.newer_iff hlast x.1).mp hold
        simp only [hold, if_false, Option.toList_some]
        refine ⟨.seen (firstNewest_concat hnewer), ?_⟩
        simpa using hnewer

/-- The run lemma. -/
lemma remembers_run (calls : List (VideoCall α)) :
    Remembers (timelySince F V calls) ((machine F V).run empty calls) := by
  refine Machine.run_history (I := fun past s => Remembers (timelySince F V past) s)
    (.unseen rfl) (fun past c ih => ?_) calls
  cases c with
  | frame f =>
    rw [timelySince_frame]
    exact (ih.frame f).1
  | verdict now =>
    rw [timelySince_verdict]
    exact ih
  | reset =>
    rw [timelySince_reset]
    exact .unseen rfl

/-- The picture is fresh when its age is known and within the limit. -/
lemma verdict_fresh_iff (stamp : Option α) (last : α) (now : PyFloat α) :
    verdict F V ⟨stamp, some last⟩ now = .fresh ↔
      ∃ t, now = .fin t ∧ .fin 0 ≤ F.sub now (.fin last) ∧
        F.sub now (.fin last) ≤ .fin V.staleAfterS := by
  cases now with
  | fin t =>
    have hage : F.sub (.fin t) (.fin last) ≠ .nan := F.round_ne_nan _
    simp only [verdict]
    constructor
    · intro h
      split_ifs at h with hout
      obtain ⟨hneg, hlate⟩ := not_or.mp hout
      exact ⟨t, rfl, PyFloat.le_of_not_lt (PyFloat.ne_nan_of_isFinite rfl) hage hneg,
        PyFloat.le_of_not_lt hage (PyFloat.ne_nan_of_isFinite rfl) hlate⟩
    · rintro ⟨u, -, hneg, hlate⟩
      exact if_neg (not_or.mpr ⟨PyFloat.not_lt_of_le hneg, PyFloat.not_lt_of_le hlate⟩)
  | nan => simp [verdict]
  | posInf => simp [verdict]
  | negInf => simp [verdict]

variable (F V) in
/-- **The picture that counts.**  After any calls, a frame is accepted exactly when it is timely and
newer than every timely frame since the last reset.  The verdict is `absent` exactly when there was
none, and `fresh` exactly when the first of the newest ones arrived within the limit. -/
theorem video_shows_newest (calls : List (VideoCall α)) :
    let s := (machine F V).run empty calls
    (∀ f, ((machine F V).step s (.frame f)).2 = .accepted true ↔
      ∃ x, timely? F V f = some x ∧ ∀ y ∈ timelySince F V calls, y.1 < x.1) ∧
    (∀ now, ((machine F V).step s (.verdict now)).2 = .verdict .absent ↔
      timelySince F V calls = []) ∧
    ∀ now, ((machine F V).step s (.verdict now)).2 = .verdict .fresh ↔
      ∃ x t, FirstNewest (timelySince F V calls) x ∧ now = .fin t ∧
        .fin 0 ≤ F.sub now (.fin x.2) ∧ F.sub now (.fin x.2) ≤ .fin V.staleAfterS := by
  have hs : Remembers (timelySince F V calls) ((machine F V).run empty calls) :=
    remembers_run calls
  generalize (machine F V).run empty calls = s at hs
  refine ⟨fun f => ?_, fun now => ?_, fun now => ?_⟩
  · rw [← (hs.frame f).2]
    simp [machine]
  · simp only [machine, VideoReply.verdict.injEq]
    cases hs with
    | unseen hframes => simp [verdict, empty, hframes]
    | @seen x hx =>
      have hne : timelySince F V calls ≠ [] := List.ne_nil_of_mem hx.mem
      refine iff_of_false ?_ hne
      simp only [verdict]
      split <;> (try split_ifs) <;> simp
  · simp only [machine, VideoReply.verdict.injEq]
    cases hs with
    | unseen hframes =>
      refine iff_of_false (by simp [verdict, empty]) ?_
      rintro ⟨x, -, hx, -⟩
      rw [hframes] at hx
      exact absurd hx.mem List.not_mem_nil
    | @seen x hx =>
      rw [verdict_fresh_iff]
      constructor
      · rintro ⟨t, rfl, hage⟩
        exact ⟨x, t, hx, rfl, hage⟩
      · rintro ⟨y, t, hy, rfl, hage⟩
        obtain rfl := hx.unique hy
        exact ⟨t, rfl, hage⟩

lemma second_pos : (0 : ℚ) < 1 := one_pos

lemma twoSeconds_nonneg : (0 : ℚ) ≤ 2 := zero_le_two

/-- A picture is stale after one second, and a stamp may be off by two. -/
def secondLimits : VideoLimits ℚ := ⟨1, 2, second_pos, twoSeconds_nonneg⟩

/-- A frame that arrives as it was stamped. -/
def promptFrame : VideoFrame ℚ := ⟨.fin 5, .fin 5, .fin 5⟩

/-- An older frame that arrives after it. -/
def lateFrame : VideoFrame ℚ := ⟨.fin 4, .fin (11 / 2), .fin (11 / 2)⟩

/-- The late frame does not keep the picture fresh: the verdict goes by the prompt one. -/
theorem video_shows_newest_late :
    ((machine (.exact ℚ) secondLimits).step ((machine (.exact ℚ) secondLimits).run empty
        [.frame promptFrame, .frame lateFrame]) (.verdict (.fin 6))).2 = .verdict .fresh := by
  have hframes : timelySince (.exact ℚ) secondLimits [.frame promptFrame, .frame lateFrame] =
      [(5, 5), (4, 11 / 2)] := by
    decide +kernel
  refine ((video_shows_newest (.exact ℚ) secondLimits
    [.frame promptFrame, .frame lateFrame]).2.2 (.fin 6)).mpr ⟨(5, 5), 6, ?_, rfl, ?_, ?_⟩
  · rw [hframes]
    exact ⟨[], [(4, 11 / 2)], rfl, by simp, by norm_num⟩
  · decide +kernel
  · decide +kernel

end VideoFreshness

end OperatorLink

end MiniatureWarehouse
