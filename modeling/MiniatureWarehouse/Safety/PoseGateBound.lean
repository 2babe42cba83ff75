import MiniatureWarehouse.Safety.ExactGeometry
import MiniatureWarehouse.Safety.PoseGateLatch

/-!
# The displacement gate never under-counts

The gate of the pose-freshness rule compares what the `PoseGateTracker` has added up since the
last pose with two thresholds.  The sums are of path lengths and of wrapped turns; over exact
arithmetic and finite samples they bound the motion itself: the straight line from where the
robot was at the last pose to where it is now, and the turn between the two headings.

The motion is stated by a second, much smaller machine that remembers the two samples alone
(`Leg`).  The tracker covers the leg in every step (`Covers.step`): a sample adds one segment to
both sides of a triangle inequality, and a pose makes the leg empty.
-/

namespace MiniatureWarehouse

namespace PoseGate

/-! ## The leg since the last pose -/

/-- One odometry sample: two coordinates and a heading. -/
abbrev Sample := ℝ × ℝ × ℝ

/-- The part of a robot's way that the gate judges: the sample held at the last pose (or the first
sample, when none was held) and the latest one. -/
structure Leg where
  start : Option Sample
  latest : Option Sample

/-- A robot that has sent nothing. -/
def Leg.empty : Leg := ⟨none, none⟩

/-- A call with finite numbers. -/
inductive Reading
  | odom (bot : String) (sample : Sample) (now : ℝ)
  | pose (bot : String)

/-- The call on the tracker. -/
def Reading.toEvent : Reading → Event ℝ
  | .odom bot (x, y, yaw) now => .odom bot (.fin x) (.fin y) (.fin yaw) (.fin now)
  | .pose bot => .pose bot

/-- The legs of one robot as a machine. -/
def legs (bot : String) : Machine Leg Reading Unit where
  step leg
    | .odom b sample _ =>
      if b = bot then (⟨leg.start.or (some sample), some sample⟩, ()) else (leg, ())
    | .pose b => if b = bot then (⟨leg.latest, leg.latest⟩, ()) else (leg, ())

/-- The straight line between two samples. -/
noncomputable def straightLine (a b : Sample) : ℝ :=
  Real.sqrt ((b.1 - a.1) ^ 2 + (b.2.1 - a.2.1) ^ 2)

/-- The turn from one sample to another, folded into half a turn either way. -/
noncomputable def netTurn (a b : Sample) : ℝ := |((b.2.2 - a.2.2 : ℝ) : Real.Angle).toReal|

lemma straightLine_eq_dist (a b : Sample) :
    straightLine a b = dist (planePoint a.1 a.2.1) (planePoint b.1 b.2.1) := by
  rw [dist_comm, Complex.dist_eq_re_im]
  rfl

lemma straightLine_triangle (a b c : Sample) :
    straightLine a c ≤ straightLine a b + straightLine b c := by
  simp only [straightLine_eq_dist]
  exact dist_triangle _ _ _

lemma straightLine_self (a : Sample) : straightLine a a = 0 := by
  rw [straightLine_eq_dist, dist_self]

lemma straightLine_nonneg (a b : Sample) : 0 ≤ straightLine a b := Real.sqrt_nonneg _

lemma netTurn_triangle (a b c : Sample) : netTurn a c ≤ netTurn a b + netTurn b c := by
  have hsum : ((c.2.2 - a.2.2 : ℝ) : Real.Angle) =
      ((b.2.2 - a.2.2 : ℝ) : Real.Angle) + ((c.2.2 - b.2.2 : ℝ) : Real.Angle) := by
    rw [← Real.Angle.coe_add]
    congr 1
    ring
  unfold netTurn
  rw [hsum]
  exact abs_toReal_add_le _ _

lemma netTurn_self (a : Sample) : netTurn a a = 0 := by
  unfold netTurn
  rw [sub_self, Real.Angle.coe_zero, Real.Angle.toReal_zero, abs_zero]

lemma netTurn_nonneg (a b : Sample) : 0 ≤ netTurn a b := abs_nonneg _

/-! ## What a call does to the tracker -/

/-- The tracker over exact arithmetic. -/
noncomputable def exactMachine : Machine (PoseGateTracker ℝ) Reading (Except PyErr Unit) where
  step t r := (machine (.exact ℝ) .real).step t r.toEvent

/-- A sample as the tracker stores it. -/
def stored (s : Sample) : PyFloat ℝ × PyFloat ℝ × PyFloat ℝ := (.fin s.1, .fin s.2.1, .fin s.2.2)

/-- A pose clears the sums of its robot and keeps its sample. -/
lemma entry_pose (t : PoseGateTracker ℝ) (bot : String) :
    entry (exactMachine.step t (.pose bot)).1 bot =
      ⟨some (.fin 0), some (.fin 0), t.last.get? bot, t.odomT.get? bot⟩ := by
  simp [exactMachine, Reading.toEvent, machine, PoseGateTracker.onPose, entry]

/-- The first sample of a robot adds nothing. -/
lemma entry_odom_first {t : PoseGateTracker ℝ} {bot : String} (hlast : t.last.get? bot = none)
    (s : Sample) (now : ℝ) :
    entry (exactMachine.step t (.odom bot s now)).1 bot =
      ⟨some (t.disp.getD bot (.fin 0)), some (t.dyaw.getD bot (.fin 0)), some (stored s),
        some (.fin now)⟩ := by
  simp [exactMachine, Reading.toEvent, machine, PoseGateTracker.onOdom, hlast, entry, Dict.getD,
    Dict.get?_setDefault, stored]

/-- A later sample adds the straight line and the turn from the sample before it. -/
lemma entry_odom {t : PoseGateTracker ℝ} {bot : String} {p : Sample}
    (hlast : t.last.get? bot = some (stored p)) (s : Sample) (now : ℝ) :
    entry (exactMachine.step t (.odom bot s now)).1 bot =
      ⟨some ((FloatFormat.exact ℝ).add (t.disp.getD bot (.fin 0)) (.fin (straightLine p s))),
        some ((FloatFormat.exact ℝ).add (t.dyaw.getD bot (.fin 0)) (.fin (netTurn p s))),
        some (stored s), some (.fin now)⟩ := by
  have hsub : (FloatFormat.exact ℝ).sub (.fin s.2.2) (.fin p.2.2) = .fin (s.2.2 - p.2.2) := by
    rw [sub_eq_add_neg]
    rfl
  have hturn : wrapAngle .real (.fin (s.2.2 - p.2.2)) =
      .ok (.fin ((s.2.2 - p.2.2 : ℝ) : Real.Angle).toReal) := wrapAngle_real_fin _
  have hline : distance (.exact ℝ) .real (.fin p.1) (.fin p.2.1) (.fin s.1) (.fin s.2.1) =
      .fin (straightLine p s) := by
    rw [distance_real_fin, straightLine_eq_dist]
  simp [exactMachine, Reading.toEvent, machine, PoseGateTracker.onOdom, hlast, entry, Dict.getD,
    stored, hsub, hturn, hline, PyFloat.abs, netTurn]

/-- The robot a call is about. -/
def Reading.bot : Reading → String
  | .odom bot _ _ => bot
  | .pose bot => bot

/-- A call about another robot changes nothing of this one. -/
lemma entry_other {t : PoseGateTracker ℝ} {bot : String} {r : Reading} (hr : r.bot ≠ bot) :
    entry (exactMachine.step t r).1 bot = entry t bot := by
  have hstep := step_botStep (.exact ℝ) .real t r.toEvent bot
  have hunusable : ¬ r.toEvent.Usable bot := by
    cases r with
    | odom b s now => exact fun h => hr h.1
    | pose b => exact id
  have hkept : ¬ r.toEvent.Dropped bot := by
    cases r with
    | odom b s now => exact fun h => hr h.1
    | pose b => exact id
  have hpose : r.toEvent ≠ .pose bot := by
    cases r with
    | odom b s now => exact fun h => nomatch h
    | pose b => exact fun h => hr (Event.pose.inj h)
  change BotStep (.exact ℝ) bot (entry t bot) r.toEvent (entry (exactMachine.step t r).1 bot)
    at hstep
  generalize entry (exactMachine.step t r).1 bot = e' at hstep ⊢
  generalize entry t bot = e at hstep ⊢
  generalize r.toEvent = n at hstep hunusable hkept hpose
  cases hstep with
  | other => rfl
  | drop hd => exact absurd hd hkept
  | anchor _ _ _ hu => exact absurd hu hunusable
  | accumulate _ _ _ _ hu => exact absurd hu hunusable
  | halfway _ _ _ _ hu => exact absurd hu hunusable
  | pose => exact absurd rfl hpose

/-! ## The tracker covers the leg -/

/-- The entries of a robot cover a leg: they hold its latest sample, and two sums that are at
least the straight line and the turn of the leg. -/
structure Covers (e : BotEntry ℝ) (leg : Leg) : Prop where
  last_eq : e.last = leg.latest.map stored
  disp_fin : ∃ disp : ℝ, e.disp.getD (.fin 0) = .fin disp ∧ 0 ≤ disp ∧
    ∀ a ∈ leg.start, ∀ b ∈ leg.latest, straightLine a b ≤ disp
  dyaw_fin : ∃ dyaw : ℝ, e.dyaw.getD (.fin 0) = .fin dyaw ∧ 0 ≤ dyaw ∧
    ∀ a ∈ leg.start, ∀ b ∈ leg.latest, netTurn a b ≤ dyaw
  start_isSome : leg.start.isSome = leg.latest.isSome
  held : leg.latest.isSome = true → e.disp.isSome = true ∧ e.dyaw.isSome = true

lemma covers_empty : Covers ⟨none, none, none, none⟩ Leg.empty where
  last_eq := rfl
  disp_fin := ⟨0, rfl, le_rfl, fun _ h => nomatch h⟩
  dyaw_fin := ⟨0, rfl, le_rfl, fun _ h => nomatch h⟩
  start_isSome := rfl
  held h := nomatch h

/-- **Step.**  Every call keeps the leg of the robot covered. -/
lemma Covers.step {t : PoseGateTracker ℝ} {bot : String} {leg : Leg}
    (h : Covers (entry t bot) leg) (r : Reading) :
    Covers (entry (exactMachine.step t r).1 bot) ((legs bot).step leg r).1 := by
  by_cases hbot : r.bot = bot
  · subst hbot
    cases r with
    | pose b =>
      simp only [Reading.bot] at h ⊢
      rw [entry_pose]
      simp only [legs, if_true]
      refine ⟨h.last_eq, ⟨0, rfl, le_rfl, ?_⟩, ⟨0, rfl, le_rfl, ?_⟩, rfl,
        fun _ => ⟨rfl, rfl⟩⟩
      · -- the leg starts where it ends
        intro a ha c hc
        obtain rfl := Option.mem_unique ha hc
        exact (straightLine_self a).le
      · intro a ha c hc
        obtain rfl := Option.mem_unique ha hc
        exact (netTurn_self a).le
    | odom b s now =>
      simp only [Reading.bot] at h ⊢
      obtain ⟨disp, hdisp, hdisp0, hline⟩ := h.disp_fin
      obtain ⟨dyaw, hdyaw, hdyaw0, hturn⟩ := h.dyaw_fin
      have hdispD : t.disp.getD b (.fin 0) = .fin disp := hdisp
      have hdyawD : t.dyaw.getD b (.fin 0) = .fin dyaw := hdyaw
      simp only [legs, if_true]
      obtain ⟨start, latest⟩ := leg
      cases latest with
      | none =>
        have hlast : t.last.get? b = none := h.last_eq
        have hstart : start = none := by
          simpa using h.start_isSome
        subst hstart
        rw [entry_odom_first hlast, hdispD, hdyawD]
        refine ⟨rfl, ⟨disp, rfl, hdisp0, ?_⟩, ⟨dyaw, rfl, hdyaw0, ?_⟩, rfl, fun _ => ⟨rfl, rfl⟩⟩
        · -- the first sample is both ends of the leg
          rintro a ⟨⟩ c ⟨⟩
          rw [straightLine_self]
          exact hdisp0
        · rintro a ⟨⟩ c ⟨⟩
          rw [netTurn_self]
          exact hdyaw0
      | some p =>
        have hlast : t.last.get? b = some (stored p) := h.last_eq
        obtain ⟨a, rfl⟩ := Option.isSome_iff_exists.mp h.start_isSome
        rw [entry_odom hlast, hdispD, hdyawD]
        refine ⟨rfl, ⟨disp + straightLine p s, rfl, ?_, ?_⟩, ⟨dyaw + netTurn p s, rfl, ?_, ?_⟩,
          rfl, fun _ => ⟨rfl, rfl⟩⟩
        · exact add_nonneg hdisp0 (straightLine_nonneg p s)
        · rintro a' ⟨⟩ c ⟨⟩
          have hsofar := hline a rfl p rfl
          have htriangle := straightLine_triangle a p s
          linarith
        · exact add_nonneg hdyaw0 (netTurn_nonneg p s)
        · rintro a' ⟨⟩ c ⟨⟩
          have hsofar := hturn a rfl p rfl
          have htriangle := netTurn_triangle a p s
          linarith
  · have hleg : ((legs bot).step leg r).1 = leg := by
      cases r with
      | odom b s now => simp only [legs, if_neg (show ¬ b = bot from hbot)]
      | pose b => simp only [legs, if_neg (show ¬ b = bot from hbot)]
    rw [entry_other hbot, hleg]
    exact h

/-- **Run.**  Whatever was called, the entries of a robot cover its leg. -/
lemma covers_run (readings : List Reading) (bot : String) :
    Covers (entry (exactMachine.run .empty readings) bot) ((legs bot).run Leg.empty readings) := by
  induction readings using List.reverseRecOn with
  | nil => exact covers_empty
  | append_singleton readings r ih =>
    rw [Machine.run_concat, Machine.run_concat]
    exact ih.step r

/-- The sums of a robot after the second list of entries are at least those of the first. -/
def Grows (e e' : BotEntry ℝ) : Prop :=
  (∀ disp : ℝ, e.disp = some (.fin disp) → ∃ disp', e'.disp = some (.fin disp') ∧ disp ≤ disp') ∧
  ∀ dyaw : ℝ, e.dyaw = some (.fin dyaw) → ∃ dyaw', e'.dyaw = some (.fin dyaw') ∧ dyaw ≤ dyaw'

lemma Grows.refl (e : BotEntry ℝ) : Grows e e :=
  ⟨fun disp h => ⟨disp, h, le_rfl⟩, fun dyaw h => ⟨dyaw, h, le_rfl⟩⟩

lemma Grows.trans {e e' e'' : BotEntry ℝ} (h : Grows e e') (h' : Grows e' e'') : Grows e e'' := by
  refine ⟨fun disp hdisp => ?_, fun dyaw hdyaw => ?_⟩
  · obtain ⟨disp', hdisp', hle⟩ := h.1 disp hdisp
    obtain ⟨disp'', hdisp'', hle'⟩ := h'.1 disp' hdisp'
    exact ⟨disp'', hdisp'', hle.trans hle'⟩
  · obtain ⟨dyaw', hdyaw', hle⟩ := h.2 dyaw hdyaw
    obtain ⟨dyaw'', hdyaw'', hle'⟩ := h'.2 dyaw' hdyaw'
    exact ⟨dyaw'', hdyaw'', hle.trans hle'⟩

/-- No call but a pose of the robot lowers its sums. -/
lemma grows_step {t : PoseGateTracker ℝ} {bot : String} {leg : Leg}
    (h : Covers (entry t bot) leg) {r : Reading} (hr : r ≠ .pose bot) :
    Grows (entry t bot) (entry (exactMachine.step t r).1 bot) := by
  by_cases hbot : r.bot = bot
  · cases r with
    | pose b => exact absurd (congrArg Reading.pose hbot) hr
    | odom b s now =>
      obtain rfl : b = bot := hbot
      cases hlatest : leg.latest with
      | none =>
        have hlast : t.last.get? b = none := by
          have hlast := h.last_eq
          rwa [hlatest] at hlast
        rw [entry_odom_first hlast]
        refine ⟨fun disp hdisp => ⟨disp, ?_, le_rfl⟩, fun dyaw hdyaw => ⟨dyaw, ?_, le_rfl⟩⟩
        · exact congrArg (fun o : Option (PyFloat ℝ) => some (o.getD (.fin 0))) hdisp
        · exact congrArg (fun o : Option (PyFloat ℝ) => some (o.getD (.fin 0))) hdyaw
      | some p =>
        have hlast : t.last.get? b = some (stored p) := by
          have hlast := h.last_eq
          rwa [hlatest] at hlast
        rw [entry_odom hlast]
        refine ⟨fun disp hdisp => ⟨disp + straightLine p s, ?_, ?_⟩,
          fun dyaw hdyaw => ⟨dyaw + netTurn p s, ?_, ?_⟩⟩
        · have hget : t.disp.getD b (.fin 0) = .fin disp := congrArg (·.getD (.fin 0)) hdisp
          rw [hget]
          rfl
        · linarith [straightLine_nonneg p s]
        · have hget : t.dyaw.getD b (.fin 0) = .fin dyaw := congrArg (·.getD (.fin 0)) hdyaw
          rw [hget]
          rfl
        · linarith [netTurn_nonneg p s]
  · rw [entry_other hbot]
    exact .refl _

/-- Between two poses of a robot its sums only grow. -/
lemma grows_run (readings : List Reading) (bot : String) {more : List Reading}
    (hmore : .pose bot ∉ more) :
    Grows (entry (exactMachine.run .empty readings) bot)
      (entry (exactMachine.run .empty (readings ++ more)) bot) := by
  induction more using List.reverseRecOn with
  | nil =>
    rw [List.append_nil]
    exact .refl _
  | append_singleton more r ih =>
    rw [List.mem_append, not_or, List.mem_singleton] at hmore
    rw [← List.append_assoc, Machine.run_concat]
    have hcovers := covers_run (readings ++ more) bot
    exact (ih hmore.1).trans (grows_step hcovers fun h => hmore.2 h.symm)

/-- **The gate never under-counts.**  After every sequence of calls with finite numbers, the sums
of a robot are at least the straight line and the net turn from the sample held at its last pose
(or its first sample) to its latest one; a tick reads these sums or nothing; and until the next
pose of the robot they only grow. -/
theorem gate_bounds_motion (readings : List Reading) (bot : String) :
    (∀ start latest, ((legs bot).run Leg.empty readings).start = some start →
      ((legs bot).run Leg.empty readings).latest = some latest →
      ∃ disp dyaw : ℝ,
        (exactMachine.run .empty readings).disp.get? bot = some (.fin disp) ∧
        (exactMachine.run .empty readings).dyaw.get? bot = some (.fin dyaw) ∧
        straightLine start latest ≤ disp ∧ netTurn start latest ≤ dyaw) ∧
    (∀ now staleAfter,
      (exactMachine.run .empty readings).snapshot (.exact ℝ) bot now staleAfter = (none, none) ∨
      (exactMachine.run .empty readings).snapshot (.exact ℝ) bot now staleAfter =
        ((exactMachine.run .empty readings).disp.get? bot,
          (exactMachine.run .empty readings).dyaw.get? bot)) ∧
    ∀ more, .pose bot ∉ more →
      Grows (entry (exactMachine.run .empty readings) bot)
        (entry (exactMachine.run .empty (readings ++ more)) bot) := by
  refine ⟨fun start latest hstart hlatest => ?_, fun now staleAfter => ?_,
    fun more hmore => grows_run readings bot hmore⟩
  · have hcovers := covers_run readings bot
    obtain ⟨hdisp, hdyaw⟩ := hcovers.held (by rw [hlatest]; rfl)
    obtain ⟨disp, hdispD, -, hline⟩ := hcovers.disp_fin
    obtain ⟨dyaw, hdyawD, -, hturn⟩ := hcovers.dyaw_fin
    obtain ⟨d, hd⟩ := Option.isSome_iff_exists.mp hdisp
    obtain ⟨y, hy⟩ := Option.isSome_iff_exists.mp hdyaw
    rw [hd] at hdispD
    rw [hy] at hdyawD
    refine ⟨disp, dyaw, hd.trans (congrArg some hdispD), hy.trans (congrArg some hdyawD), ?_, ?_⟩
    · exact hline start hstart latest hlatest
    · exact hturn start hstart latest hlatest
  · unfold PoseGateTracker.snapshot
    split
    · exact .inl rfl
    · split_ifs
      · exact .inl rfl
      · exact .inr rfl
      · exact .inl rfl

end PoseGate

end MiniatureWarehouse
