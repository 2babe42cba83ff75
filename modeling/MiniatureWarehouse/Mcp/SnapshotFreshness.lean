import MiniatureWarehouse.Mcp.Wire

/-!
# Does the gate fail closed on the timestamp of the state file?

Two helpers of the gate read the timestamp of the state file.  `_timestamp_is_corrupt` refuses a
text that does not parse and lets everything that is no text pass; `_snapshot_ts` turns whatever
it cannot convert into a missing timestamp, which counts as fresh.  Between the two, three kinds
of present timestamps make a snapshot of any age look fresh: a value that is no text, a text that
parses and has no epoch second, and an age that is no number.

`fails_closed_iff` says that there is no fourth: for every other timestamp and clock an accepted
request that names a robot has read a snapshot within the window, or one without a timestamp.
-/

namespace MiniatureWarehouse

namespace Wire

section Freshness

variable {α : Type} [Field α] [LinearOrder α] [IsStrictOrderedRing α] (F : FloatFormat α)
  (iso : IsoTimestamp α) (fresh : FreshnessThresholds α)

/-- The timestamp is missing or empty, or it denotes an instant whose age is within the window. -/
def FreshTimestamp (timestamp : Option (PyVal α)) (now : PyFloat α) : Prop :=
  timestamp = none ∨ timestamp = some (.str "") ∨
    ∃ s t, timestamp = some (.str s) ∧ iso s = some (.ok t) ∧ F.sub now t ≤ .fin fresh.staleAfter

/-- The present timestamps that pass for fresh without being so: a value that is no text, a text
that parses but whose conversion raises a `ValueError`, and one whose age is not a number. -/
def PassesForFresh (timestamp : Option (PyVal α)) (now : PyFloat α) : Prop :=
  ∃ v, timestamp = some v ∧
    (text? v = none ∨
      ∃ s, v = .str s ∧ s ≠ "" ∧
        (iso s = some (.error .valueError) ∨ ∃ t, iso s = some (.ok t) ∧ F.sub now t = .nan))

/-- The state file the call reads has this timestamp, and the clock shows this time. -/
def Shows (r : Reading α) (timestamp : Option (PyVal α)) (now : PyFloat α) : Prop :=
  r.now = now ∧ ∃ state, readState r.state = .ok state ∧ Dict.find state "timestamp" = timestamp

/-- **Failing closed on a timestamp.**  Whatever else the state file holds and whatever the gate has
recorded, a dispatch that names a robot and a charging request are accepted only under a fresh
timestamp. -/
def SnapshotFailsClosed (timestamp : Option (PyVal α)) (now : PyFloat α) : Prop :=
  (∀ (g : PolicyGate α (PyVal α)) (r : Reading α) (robot pickup dropoff action : PyVal α)
      (taskId : String),
    Shows r timestamp now → isNull robot = false →
    (validateAndRegisterDispatch F iso fresh g r robot pickup dropoff action).2 = .ok taskId →
    FreshTimestamp F iso fresh timestamp now) ∧
  ∀ (g : PolicyGate α (PyVal α)) (r : Reading α) (robot : PyVal α) (taskId : String),
    Shows r timestamp now →
    (validateAndRegisterCharging F iso fresh g r robot).2 = .ok taskId →
    FreshTimestamp F iso fresh timestamp now

/-! ## What an accepted request has read -/

variable {F iso fresh}

/-- An age that is neither past the window nor `NaN` is within it. -/
lemma age_le_of_checkRobotState {snapshot : PyVal α} {now t : PyFloat α} {u : Unit}
    (hage : F.sub now t ≠ .nan)
    (h : checkRobotState F fresh snapshot now (some t) = .ok u) :
    F.sub now t ≤ .fin fresh.staleAfter := by
  have hstale := (PolicyGate.checkRobotState_eq_ok h).2 t rfl
  exact PyFloat.le_of_not_lt hage (by simp) hstale

/-- A snapshot that passes its stage has a fresh timestamp, or one that passes for fresh. -/
lemma freshTimestamp_of_freshSnapshot {r : Reading α} {robot snapshot : PyVal α}
    {timestamp : Option (PyVal α)} {now : PyFloat α} (hshows : Shows r timestamp now)
    (h : freshSnapshot F iso fresh r robot = .ok snapshot)
    (hno : ¬ PassesForFresh F iso timestamp now) : FreshTimestamp F iso fresh timestamp now := by
  obtain ⟨rfl, state, hstate, rfl⟩ := hshows
  obtain ⟨state', hstate', h⟩ := exceptBind_eq_ok.mp h
  obtain rfl := Except.ok.inj (hstate.symm.trans hstate')
  obtain ⟨_, hcorrupt, h⟩ := exceptBind_eq_ok.mp h
  obtain ⟨robots, hrobots, h⟩ := exceptBind_eq_ok.mp h
  obtain ⟨found, hfound, h⟩ := exceptBind_eq_ok.mp h
  obtain ⟨ts, hts, h⟩ := exceptBind_eq_ok.mp h
  obtain ⟨_, hrobot, -⟩ := exceptBind_eq_ok.mp h
  rw [refuseIf_eq_ok] at hcorrupt
  cases htimestamp : Dict.find state "timestamp" with
  | none => exact .inl rfl
  | some v =>
    rw [htimestamp] at hcorrupt hts hno
    cases v with
    | str s =>
      by_cases hempty : s = ""
      · exact .inr (.inl (by rw [hempty]))
      have hpasses : ∀ h : iso s = some (.error .valueError) ∨
          ∃ t, iso s = some (.ok t) ∧ F.sub r.now t = .nan, False :=
        fun h => hno ⟨.str s, rfl, .inr ⟨s, rfl, hempty, h⟩⟩
      cases hiso : iso s with
      | none => simp [timestampIsCorrupt, hempty, hiso] at hcorrupt
      | some converted =>
        cases converted with
        | error e =>
          by_cases he : e = .valueError
          · exact absurd (.inl (by rw [hiso, he])) hpasses
          · exfalso
            simp only [snapshotTs, hiso] at hts
            cases e with
            | valueError => exact he rfl
            | _ => cases hts
        | ok t =>
          simp only [snapshotTs, hiso] at hts
          obtain rfl := Except.ok.inj hts
          refine .inr (.inr ⟨s, t, rfl, hiso, age_le_of_checkRobotState ?_ hrobot⟩)
          exact fun hnan => hpasses (.inr ⟨t, hiso, hnan⟩)
    | _ => exact absurd ⟨_, rfl, .inl rfl⟩ hno

omit [Field α] [LinearOrder α] [IsStrictOrderedRing α] in
/-- Only what passed its checks is registered. -/
lemma registerIf_eq_ok {g : PolicyGate α (PyVal α)} {verdict : Check Unit} {robot : Option String}
    {dropoff : Option (PyVal α)} {now : PyFloat α} {taskId : String}
    (h : (g.registerIf verdict robot dropoff now).2 = .ok taskId) : verdict = .ok () := by
  cases verdict with
  | ok u => rfl
  | error refusal => cases h

/-- The robot stage of a named robot goes through its snapshot. -/
lemma exists_snapshot_of_robotStage {g : PolicyGate α (PyVal α)} {r : Reading α} {robot : PyVal α}
    {u : Unit} (hrobot : isNull robot = false) (h : robotStage F iso fresh g r robot = .ok u) :
    ∃ snapshot, freshSnapshot F iso fresh r robot = .ok snapshot := by
  cases robot with
  | null => cases hrobot
  | _ =>
    obtain ⟨snapshot, hsnapshot, -⟩ := exceptBind_eq_ok.mp h
    exact ⟨snapshot, hsnapshot⟩

/-- Where no timestamp passes for fresh, the gate fails closed. -/
lemma failsClosed_of_not_passes {timestamp : Option (PyVal α)} {now : PyFloat α}
    (hno : ¬ PassesForFresh F iso timestamp now) : SnapshotFailsClosed F iso fresh timestamp now := by
  constructor
  · intro g r robot pickup dropoff action taskId hshows hrobot haccepted
    obtain ⟨_, -, h⟩ := exceptBind_eq_ok.mp (registerIf_eq_ok haccepted)
    obtain ⟨_, hstage, -⟩ := exceptBind_eq_ok.mp h
    obtain ⟨snapshot, hsnapshot⟩ := exists_snapshot_of_robotStage hrobot hstage
    exact freshTimestamp_of_freshSnapshot hshows hsnapshot hno
  · intro g r robot taskId hshows haccepted
    obtain ⟨snapshot, hsnapshot, -⟩ := exceptBind_eq_ok.mp (registerIf_eq_ok haccepted)
    exact freshTimestamp_of_freshSnapshot hshows hsnapshot hno

/-! ## A request that is accepted -/

/-- A state file with one robot and this timestamp. -/
def oneRobot (timestamp : PyVal α) (now : PyFloat α) : Reading α where
  state := .ok (.dict [("timestamp", timestamp), ("robots", .dict [("bot1", .dict [])])])
  now := now

omit [IsStrictOrderedRing α] in
lemma shows_oneRobot (v : PyVal α) (now : PyFloat α) : Shows (oneRobot v now) (some v) now :=
  ⟨rfl, _, rfl, rfl⟩

/-- A timestamp that passes for fresh is not corrupt, and neither window stops the robot. -/
lemma freshSnapshot_of_passes {v : PyVal α} {now : PyFloat α}
    (h : PassesForFresh F iso (some v) now) :
    freshSnapshot F iso fresh (oneRobot v now) (.str "bot1") = .ok (.dict []) := by
  obtain ⟨v', hv, hpasses⟩ := h
  obtain rfl := Option.some.inj hv
  have hread : timestampIsCorrupt iso (some v) = false ∧ ∃ ts, snapshotTs iso (some v) = .ok ts ∧
      checkRobotState F fresh (.dict []) now ts = .ok () := by
    rcases hpasses with htext | ⟨s, rfl, hs, hvalue | ⟨t, ht, hnan⟩⟩
    · cases v with
      | str s => cases htext
      | _ => exact ⟨rfl, none, rfl, rfl⟩
    · refine ⟨?_, none, ?_, rfl⟩
      · simp [timestampIsCorrupt, hvalue]
      · simp [snapshotTs, hvalue]
    · refine ⟨?_, some t, ?_, ?_⟩
      · simp [timestampIsCorrupt, ht]
      · simp [snapshotTs, ht]
      · -- no comparison with `NaN` holds
        simp only [checkRobotState, hnan, PyFloat.not_lt_nan, decide_false]
        rfl
  obtain ⟨hcorrupt, ts, hts, hstate⟩ := hread
  -- the file itself is read without a refusal
  refine exceptBind_eq_ok.mpr ⟨(), refuseIf_eq_ok.mpr hcorrupt, ?_⟩
  refine exceptBind_eq_ok.mpr ⟨_, rfl, exceptBind_eq_ok.mpr ⟨.dict [], rfl, ?_⟩⟩
  refine exceptBind_eq_ok.mpr ⟨ts, hts, ?_⟩
  exact exceptBind_eq_ok.mpr ⟨(), hstate, rfl⟩

/-- A timestamp that passes for fresh is not fresh. -/
lemma not_fresh_of_passes {timestamp : Option (PyVal α)} {now : PyFloat α}
    (h : PassesForFresh F iso timestamp now) : ¬ FreshTimestamp F iso fresh timestamp now := by
  obtain ⟨v, rfl, hpasses⟩ := h
  rintro (hnone | hempty | ⟨s, t, hs, ht, hage⟩)
  · cases hnone
  · obtain rfl := Option.some.inj hempty
    rcases hpasses with htext | ⟨s, hs, hne, -⟩
    · cases htext
    · exact hne (PyVal.str.inj hs).symm
  · obtain rfl := Option.some.inj hs
    rcases hpasses with htext | ⟨s', hs', -, hvalue | ⟨t', ht', hnan⟩⟩
    · cases htext
    · obtain rfl := PyVal.str.inj hs'
      rw [ht] at hvalue
      cases hvalue
    · obtain rfl := PyVal.str.inj hs'
      obtain rfl := Except.ok.inj (Option.some.inj (ht.symm.trans ht'))
      rw [hnan] at hage
      exact PyFloat.not_nan_le hage

variable (F iso fresh)

/-- **Exactly the timestamps that pass for fresh break the gate.**  For every timestamp a state file
can hold, and every clock, the gate fails closed if and only if the timestamp is not a value other
than a text, a text without an epoch second, or one whose age is no number. -/
theorem fails_closed_iff (timestamp : Option (PyVal α)) (now : PyFloat α) :
    SnapshotFailsClosed F iso fresh timestamp now ↔ ¬ PassesForFresh F iso timestamp now := by
  constructor
  · intro hclosed hpasses
    obtain ⟨v, rfl, -⟩ := id hpasses
    -- a fresh gate lets the only robot of the file wait
    have hsnapshot : freshSnapshot F iso fresh (oneRobot v now) (.str "bot1") = .ok (.dict []) :=
      freshSnapshot_of_passes hpasses
    have hstage : robotStage F iso fresh (.init ∅) (oneRobot v now) (.str "bot1") = .ok () :=
      exceptBind_eq_ok.mpr ⟨_, hsnapshot, rfl⟩
    have hverdict : validateDispatchInner F iso fresh (.init ∅) (oneRobot v now) (.str "bot1")
        .null .null (.str "wait") = .ok () :=
      exceptBind_eq_ok.mpr ⟨(), hstage, rfl⟩
    obtain ⟨taskId, haccepted⟩ : ∃ taskId, (validateAndRegisterDispatch F iso fresh (.init ∅)
        (oneRobot v now) (.str "bot1") .null .null (.str "wait")).2 = .ok taskId := by
      rw [validateAndRegisterDispatch, hverdict]
      exact ⟨_, rfl⟩
    exact not_fresh_of_passes hpasses
      (hclosed.1 _ _ _ _ _ _ _ (shows_oneRobot v now) rfl haccepted)
  · exact failsClosed_of_not_passes

end Freshness

/-! ### A number and a year without an epoch second -/

section Examples

/-- The first day of the calendar parses, and lies before every epoch second. -/
def isoFirstDay : IsoTimestamp ℚ := fun s =>
  if s = "0001-01-01T00:00:00" then some (.error .valueError) else none

/-- The gate fails closed on a text that is no timestamp. -/
theorem fails_closed_on_garbage :
    SnapshotFailsClosed (.exact ℚ) isoFirstDay .default (some (.str "soon")) (.fin 1767225600) := by
  refine (fails_closed_iff (.exact ℚ) isoFirstDay .default (some (.str "soon"))
    (.fin 1767225600)).mpr ?_
  have hgarbage : isoFirstDay "soon" = none := if_neg (by decide)
  rintro ⟨v, hv, hpasses⟩
  obtain rfl := Option.some.inj hv
  rcases hpasses with htext | ⟨s, hs, -, hiso | ⟨t, hiso, -⟩⟩
  · cases htext
  · obtain rfl := PyVal.str.inj hs
    cases hgarbage.symm.trans hiso
  · obtain rfl := PyVal.str.inj hs
    cases hgarbage.symm.trans hiso

/-- A wait of the first robot is accepted in 2026 under a timestamp that is not fresh. -/
def AcceptedWhileStale (timestamp : PyVal ℚ) : Prop :=
  (validateAndRegisterDispatch (.exact ℚ) isoFirstDay .default (.init ∅)
      (oneRobot timestamp (.fin 1767225600)) (.str "bot1") .null .null (.str "wait")).2.isOk =
    true ∧
  ¬ FreshTimestamp (.exact ℚ) isoFirstDay .default (some timestamp) (.fin 1767225600)

/-- A file stamped with the number zero is accepted, and so is one stamped with a day that has no
epoch second. -/
theorem stale_snapshot_accepted :
    AcceptedWhileStale (.int 0) ∧ AcceptedWhileStale (.str "0001-01-01T00:00:00") := by
  have hnumber : PassesForFresh (.exact ℚ) isoFirstDay (some (.int 0)) (.fin 1767225600) :=
    ⟨.int 0, rfl, .inl rfl⟩
  have hfirst : PassesForFresh (.exact ℚ) isoFirstDay (some (.str "0001-01-01T00:00:00"))
      (.fin 1767225600) :=
    ⟨_, rfl, .inr ⟨_, rfl, by decide, .inl rfl⟩⟩
  refine ⟨⟨?_, not_fresh_of_passes hnumber⟩, ⟨?_, not_fresh_of_passes hfirst⟩⟩
  · decide +kernel
  · decide +kernel

end Examples

end Wire

end MiniatureWarehouse
