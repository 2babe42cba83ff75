import MiniatureWarehouse.Framework.Runs
import MiniatureWarehouse.Safety.ExactGeometry

/-!
# The blocked timer on a stream with corrupt poses

`BlockTracker` compares a pose with the place it last saw the robot move to, not with the pose
before it, and every comparison with `NaN` is false.  A corrupt pose that becomes that place
therefore makes every later finite pose look still: the timer runs on while the robot moves.

A pose is *corrupt* when a coordinate is `NaN` and none is infinite (an infinite leg wins in the
norm).  The one way in is a corrupt pose that counts as a move: the first pose of a robot, or one
that is infinitely far from the place stored.  `moves_reset` shows it is the only way: in every
run without such a step a finite pose at least two epsilons from the finite pose before it is
reported with a blocked duration of zero.
-/

namespace MiniatureWarehouse

namespace BlockTracker

/-! ## Streams of poses -/

/-- One pose fed to the tracker. -/
structure Pose (α : Type*) where
  bot : String
  x : PyFloat α
  y : PyFloat α
  now : PyFloat α

namespace Pose

variable {α : Type*}

/-- A pose with two finite coordinates. -/
def isFinite (p : Pose α) : Bool := p.x.isFinite && p.y.isFinite

/-- Is this an infinity? -/
def infinite : PyFloat α → Bool
  | .posInf | .negInf => true
  | _ => false

/-- A place with a `NaN` coordinate that no infinite one outweighs. -/
def corrupt (place : PyFloat α × PyFloat α) : Bool :=
  (place.1.isNaN || place.2.isNaN) && !(infinite place.1 || infinite place.2)

/-- The place of a pose. -/
def place (p : Pose α) : PyFloat α × PyFloat α := (p.x, p.y)

/-- The last finite pose of a robot in a stream. -/
def lastFinite (bot : String) (stream : List (Pose α)) : Option (Pose α) :=
  (stream.filter fun p => p.bot == bot && p.isFinite).getLast?

lemma lastFinite_concat (bot : String) (stream : List (Pose α)) (p : Pose α) :
    lastFinite bot (stream ++ [p]) =
      if p.bot = bot ∧ p.isFinite = true then some p else lastFinite bot stream := by
  unfold lastFinite
  rw [List.filter_append]
  by_cases h : p.bot = bot ∧ p.isFinite = true
  · simp [h.1, h.2]
  · have hdrop : (p.bot == bot && p.isFinite) = false := by
      rwa [← Bool.not_eq_true, Bool.and_eq_true, beq_iff_eq]
    simp [h, hdrop]

end Pose

section Machine

variable {α : Type*} [Field α] [LinearOrder α] [IsStrictOrderedRing α]
  (F : FloatFormat α) (L : MathLib α)

/-- A tracker that has received nothing. -/
def fresh (epsilon : PyFloat α) : BlockTracker α := ⟨epsilon, .empty, .empty⟩

/-- The tracker as a machine; a pose puts out the blocked duration reported for it. -/
def machine : Machine (BlockTracker α) (Pose α) (PyFloat α) where
  step t p := t.update F L p.bot p.x p.y p.now

/-- The distance of two places, as the tracker measures it. -/
def span (a b : PyFloat α × PyFloat α) : PyFloat α := distance F L a.1 a.2 b.1 b.2

/-- The pose counts as a move: it is the first of its robot, or at least an epsilon from the
place stored. -/
def CountsAsMove (t : BlockTracker α) (p : Pose α) : Prop :=
  ∀ place, t.lastXy.get? p.bot = some place → t.epsilon ≤ span F L place p.place

/-- No corrupt pose counts as a move. -/
def CorruptStaysOut (t : BlockTracker α) (p : Pose α) : Prop :=
  Pose.corrupt p.place = true → ¬ CountsAsMove F L t p

/-- **What the timer owes a moving robot**: a finite pose at least two epsilons from the finite
pose of the robot before it is reported with a blocked duration of zero. -/
def MovesReset (epsilon : PyFloat α) (stream : List (Pose α)) : Prop :=
  ∀ earlier p later, stream = earlier ++ p :: later → p.isFinite = true →
    ∀ prev, Pose.lastFinite p.bot earlier = some prev →
      F.mul (.fin 2) epsilon ≤ span F L prev.place p.place →
      ((machine F L).step ((machine F L).run (fresh epsilon) earlier) p).2 = .fin 0

/-! ## One pose -/

variable {F L}

/-- A pose that counts as a move becomes the place of its robot and reports zero. -/
lemma step_of_move {t : BlockTracker α} {p : Pose α} (h : CountsAsMove F L t p) :
    (machine F L).step t p =
      ({ t with
          lastXy := t.lastXy.set p.bot p.place
          lastMovedT := t.lastMovedT.set p.bot p.now }, .fin 0) := by
  simp only [machine, update]
  cases hplace : t.lastXy.get? p.bot with
  | none => rfl
  | some place =>
    have hfar : t.epsilon ≤ distance F L place.1 place.2 p.x p.y := h place hplace
    exact if_pos hfar

/-- A pose that does not count as a move leaves the tracker alone. -/
lemma step_of_not_move {t : BlockTracker α} {p : Pose α} (h : ¬ CountsAsMove F L t p) :
    ((machine F L).step t p).1 = t := by
  unfold CountsAsMove at h
  push Not at h
  obtain ⟨place, hplace, hnear⟩ := h
  simp only [machine, update, hplace]
  exact congrArg Prod.fst (if_neg hnear)

end Machine

/-! ## Measured over the reals -/

section Real

variable {epsilon : PyFloat ℝ}

/-- A place infinitely far out is infinitely far from every finite one. -/
lemma span_of_infinite {a b : PyFloat ℝ × PyFloat ℝ}
    (ha : (Pose.infinite a.1 || Pose.infinite a.2) = true)
    (hb : (b.1.isFinite && b.2.isFinite) = true) : span (.exact ℝ) .real a b = .posInf := by
  obtain ⟨ax, ay⟩ := a
  obtain ⟨bx, b_y⟩ := b
  obtain ⟨hbx, hby⟩ := Bool.and_eq_true_iff.mp hb
  obtain ⟨x, rfl⟩ := PyFloat.isFinite_iff.mp hbx
  obtain ⟨y, rfl⟩ := PyFloat.isFinite_iff.mp hby
  cases ax <;> cases ay <;> first | rfl | exact absurd ha Bool.false_ne_true

/-- A place is corrupt, infinitely far out, or finite. -/
lemma place_cases (a : PyFloat ℝ × PyFloat ℝ) :
    Pose.corrupt a = true ∨ (Pose.infinite a.1 || Pose.infinite a.2) = true ∨
      ∃ x y, a = (.fin x, .fin y) := by
  obtain ⟨ax, ay⟩ := a
  cases ax <;> cases ay <;> simp [Pose.corrupt, Pose.infinite, PyFloat.isNaN]

lemma exists_place_of_isFinite {p : Pose ℝ} (hp : p.isFinite = true) :
    ∃ x y, p.place = (.fin x, .fin y) := by
  obtain ⟨hx, hy⟩ := Bool.and_eq_true_iff.mp hp
  obtain ⟨x, hx⟩ := PyFloat.isFinite_iff.mp hx
  obtain ⟨y, hy⟩ := PyFloat.isFinite_iff.mp hy
  exact ⟨x, y, by rw [Pose.place, hx, hy]⟩

/-- The place stored vouches for the pose `prev`: whatever is two epsilons from the pose is an
epsilon from the place. -/
def Vouches (epsilon : PyFloat ℝ) (place : PyFloat ℝ × PyFloat ℝ) (prev : Pose ℝ) : Prop :=
  ∀ q : Pose ℝ, q.isFinite = true →
    (FloatFormat.exact ℝ).mul (.fin 2) epsilon ≤ span (.exact ℝ) .real prev.place q.place →
    epsilon ≤ span (.exact ℝ) .real place q.place

/-- A threshold doubled and met by a distance is no `NaN`. -/
lemma le_posInf_of_double {d : PyFloat ℝ} (h : (FloatFormat.exact ℝ).mul (.fin 2) epsilon ≤ d) :
    epsilon ≤ .posInf := by
  cases epsilon with
  | nan => exact absurd h PyFloat.not_nan_le
  | fin e => trivial
  | posInf => trivial
  | negInf => trivial

/-- An infinite place vouches for every pose. -/
lemma vouches_of_infinite {a : PyFloat ℝ × PyFloat ℝ}
    (ha : (Pose.infinite a.1 || Pose.infinite a.2) = true) (prev : Pose ℝ) :
    Vouches epsilon a prev := by
  intro q hq hfar
  have hspan : span (.exact ℝ) .real a q.place = .posInf := span_of_infinite ha hq
  rw [hspan]
  exact le_posInf_of_double hfar

/-- A pose within an epsilon of a finite place is vouched for by it. -/
lemma vouches_of_near {ax ay : ℝ} {prev : Pose ℝ} (hprev : prev.isFinite = true)
    (hnear : ¬ epsilon ≤ span (.exact ℝ) .real (.fin ax, .fin ay) prev.place) :
    Vouches epsilon (.fin ax, .fin ay) prev := by
  intro q hq hfar
  obtain ⟨px, p_y, hp⟩ := exists_place_of_isFinite hprev
  obtain ⟨qx, qy, hq⟩ := exists_place_of_isFinite hq
  rw [hp, span, distance_real_fin] at hnear
  rw [hp, hq, span, distance_real_fin] at hfar
  rw [hq, span, distance_real_fin]
  cases epsilon with
  | nan => exact absurd hfar PyFloat.not_nan_le
  | posInf => exact absurd hfar (by simp [FloatFormat.mul])
  | negInf => trivial
  | fin e =>
    rw [exact_mul_fin, PyFloat.fin_le_fin] at hfar
    rw [PyFloat.fin_le_fin, not_le] at hnear
    rw [PyFloat.fin_le_fin]
    -- the place is less than an epsilon from the pose, so the triangle leaves an epsilon
    have htriangle := dist_triangle_left (planePoint px p_y) (planePoint qx qy) (planePoint ax ay)
    linarith

/-- A finite pose vouches for itself. -/
lemma vouches_self {prev : Pose ℝ} (hprev : prev.isFinite = true) :
    Vouches epsilon prev.place prev := by
  intro q hq hfar
  obtain ⟨px, p_y, hp⟩ := exists_place_of_isFinite hprev
  obtain ⟨qx, qy, hq⟩ := exists_place_of_isFinite hq
  rw [hp, hq, span, distance_real_fin] at hfar ⊢
  have hnonneg := dist_nonneg (x := planePoint px p_y) (y := planePoint qx qy)
  cases epsilon with
  | nan => exact absurd hfar PyFloat.not_nan_le
  | posInf => exact absurd hfar (by simp [FloatFormat.mul])
  | negInf => trivial
  | fin e =>
    rw [exact_mul_fin, PyFloat.fin_le_fin] at hfar
    rw [PyFloat.fin_le_fin]
    rcases le_or_gt e 0 with hle | hgt
    · exact hle.trans hnonneg
    · linarith

/-! ## The invariant -/

/-- What holds of a tracker after the stream `past`: every place stored is free of corruption,
and vouches for the last finite pose of its robot. -/
structure Sound (epsilon : PyFloat ℝ) (past : List (Pose ℝ)) (t : BlockTracker ℝ) : Prop where
  epsilon_eq : t.epsilon = epsilon
  not_corrupt : ∀ bot place, t.lastXy.get? bot = some place → Pose.corrupt place = false
  vouched : ∀ bot prev, Pose.lastFinite bot past = some prev →
    ∃ place, t.lastXy.get? bot = some place ∧ Vouches epsilon place prev

lemma sound_fresh : Sound epsilon [] (fresh epsilon) where
  epsilon_eq := rfl
  not_corrupt _ _ h := by cases h
  vouched _ _ h := by cases h

/-- The place stored after a pose vouches for whatever the pose leaves as the last finite one. -/
lemma Sound.step {past : List (Pose ℝ)} {t : BlockTracker ℝ} {p : Pose ℝ}
    (h : Sound epsilon past t) (hp : CorruptStaysOut (.exact ℝ) .real t p) :
    Sound epsilon (past ++ [p]) ((machine (.exact ℝ) .real).step t p).1 := by
  by_cases hmove : CountsAsMove (.exact ℝ) .real t p
  · have hclean : Pose.corrupt p.place = false := by
      rw [← Bool.not_eq_true]
      exact fun hcorrupt => hp hcorrupt hmove
    rw [step_of_move hmove]
    refine ⟨h.epsilon_eq, fun bot place hplace => ?_, fun bot prev hprev => ?_⟩
    · rw [Dict.get?_set] at hplace
      split_ifs at hplace with hbot
      · obtain rfl := Option.some.inj hplace
        exact hclean
      · exact h.not_corrupt bot place hplace
    · rw [Pose.lastFinite_concat] at hprev
      by_cases hbot : bot = p.bot
      · refine ⟨p.place, by rw [hbot, Dict.get?_set_self], ?_⟩
        split_ifs at hprev with hfinite
        · obtain rfl := Option.some.inj hprev
          exact vouches_self hfinite.2
        · -- the pose is neither finite nor corrupt, so it is infinitely far out
          have hnotfinite : ¬ p.isFinite = true := fun hfin => hfinite ⟨hbot.symm, hfin⟩
          rcases place_cases p.place with hcorrupt | hinfinite | ⟨x, y, hxy⟩
          · rw [hclean] at hcorrupt
            cases hcorrupt
          · exact vouches_of_infinite hinfinite prev
          · obtain ⟨hx, hy⟩ := Prod.mk.inj hxy
            exact absurd (by rw [Pose.isFinite, hx, hy]; rfl) hnotfinite
      · rw [if_neg fun hfinite => hbot hfinite.1.symm] at hprev
        obtain ⟨place, hplace, hvouches⟩ := h.vouched bot prev hprev
        exact ⟨place, by rw [Dict.get?_set_of_ne _ _ hbot]; exact hplace, hvouches⟩
  · rw [step_of_not_move hmove]
    refine ⟨h.epsilon_eq, h.not_corrupt, fun bot prev hprev => ?_⟩
    rw [Pose.lastFinite_concat] at hprev
    split_ifs at hprev with hfinite
    · obtain ⟨rfl, hfin⟩ := hfinite
      obtain rfl := Option.some.inj hprev
      unfold CountsAsMove at hmove
      push Not at hmove
      obtain ⟨place, hplace, hnear⟩ := hmove
      rw [h.epsilon_eq] at hnear
      refine ⟨place, hplace, ?_⟩
      rcases place_cases place with hcorrupt | hinfinite | ⟨x, y, rfl⟩
      · rw [h.not_corrupt _ place hplace] at hcorrupt
        cases hcorrupt
      · exact vouches_of_infinite hinfinite p
      · exact vouches_of_near hfin hnear
    · exact h.vouched bot prev hprev

/-- **A moving robot is not blocked**, in every run in which no corrupt pose counts as a move:
a finite pose at least two epsilons from the finite pose before it reports zero. -/
theorem moves_reset (epsilon : PyFloat ℝ) (stream : List (Pose ℝ))
    (h : (machine (.exact ℝ) .real).AllSteps (CorruptStaysOut (.exact ℝ) .real) (fresh epsilon)
      stream) : MovesReset (.exact ℝ) .real epsilon stream := by
  rintro earlier p later rfl hfinite prev hprev hfar
  obtain ⟨hearlier, -⟩ := (Machine.allSteps_append ..).mp h
  have hsound : Sound epsilon earlier ((machine (.exact ℝ) .real).run (fresh epsilon) earlier) :=
    Machine.run_history_of_allSteps sound_fresh (fun _ _ hp hs => hs.step hp) hearlier
  obtain ⟨place, hplace, hvouches⟩ := hsound.vouched p.bot prev hprev
  have hmove : CountsAsMove (.exact ℝ) .real
      ((machine (.exact ℝ) .real).run (fresh epsilon) earlier) p := by
    intro place' hplace'
    obtain rfl := Option.some.inj (hplace.symm.trans hplace')
    rw [hsound.epsilon_eq]
    exact hvouches p hfinite hfar
  rw [step_of_move hmove]

/-- A robot that moves from the origin by a unit, with a corrupt pose on the way. -/
def glitch : List (Pose ℝ) :=
  [⟨"bot1", .fin 0, .fin 0, .fin 0⟩, ⟨"bot1", .nan, .fin 0, .fin 10⟩,
    ⟨"bot1", .fin 1, .fin 0, .fin 20⟩]

/-- The corrupt pose on the way does not count as a move, and the timer is reset. -/
theorem moves_reset_glitch : MovesReset (.exact ℝ) .real (.fin (1 / 50)) glitch := by
  apply moves_reset
  refine ⟨?_, ?_, ?_, trivial⟩
  · intro hcorrupt
    cases hcorrupt
  · intro _ hmove
    -- the first pose is the place stored, and its distance to the corrupt one is no number
    exact PyFloat.not_le_nan (hmove (.fin 0, .fin 0) rfl)
  · intro hcorrupt
    cases hcorrupt

end Real

/-! ### A first pose without a position -/

/-- A localizer that starts with a `NaN`, and then reports a robot at two places. -/
def nanStart : List (Pose ℚ) :=
  [⟨"bot1", .nan, .fin 0, .fin 0⟩, ⟨"bot1", .fin 0, .fin 0, .fin 10⟩,
    ⟨"bot1", .fin 1, .fin 0, .fin 20⟩]

/-- The robot has moved a whole unit and is reported blocked since the corrupt pose. -/
theorem nanStart_not_reset :
    ¬ MovesReset (.exact ℚ) .rational (.fin (1 / 50)) nanStart := by
  intro h
  have hzero := h [⟨"bot1", .nan, .fin 0, .fin 0⟩, ⟨"bot1", .fin 0, .fin 0, .fin 10⟩]
    ⟨"bot1", .fin 1, .fin 0, .fin 20⟩ [] rfl rfl ⟨"bot1", .fin 0, .fin 0, .fin 10⟩ rfl
    (by decide +kernel)
  revert hzero
  decide +kernel

end BlockTracker

end MiniatureWarehouse
