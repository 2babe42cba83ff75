import MiniatureWarehouse.Teleop.OperatorLink

/-!
# Sessions and replays

The handler of the link offers frames to the guard, takes the waiting sample, starts a new session
when the peer reconnects, and replays what it has taken, as often and as late as it likes.  The
system is the guard with everything that was taken so far.

`Follows` says of two notices what may come before what; `Ledger` is the invariant behind it.
-/

namespace MiniatureWarehouse

namespace OperatorLink

open CrossingApproval

variable {α : Type} [Field α] [LinearOrder α] [IsStrictOrderedRing α] {F : FloatFormat α}

/-! ## What the operations do -/

lemma oldest_ne_nan (g : SessionGuard α) (now : α) : g.oldest F now ≠ .nan :=
  F.add_ne_nan_of_fin_right _ (F.add_ne_nan_of_fin_right _ nofun)

lemma newest_ne_nan (g : SessionGuard α) (now : α) : g.newest F now ≠ .nan :=
  F.add_ne_nan_of_fin_right _ nofun

/-- **Specification of `accept`.**  A message is admitted when it is of the session, comes after the
last one and was sent inside of the window; otherwise nothing changes. -/
lemma accept_cases (g : SessionGuard α) (msg : Option (ControlMessage α))
    (nowWallS nowMonoS : PyVal α) :
    (∃ answer, answer ≠ .ok true ∧ g.accept F msg nowWallS nowMonoS = (g, answer)) ∨
      ∃ m wall mono, msg = some m ∧ finiteNumber? F nowWallS = .ok (some wall) ∧
        finiteNumber? F nowMonoS = .ok (some mono) ∧ m.sessionEpoch = g.sessionEpoch ∧
        (∀ last ∈ g.lastSequence, last < m.sequence) ∧ ¬ m.sentAtS < g.oldest F wall ∧
        ¬ g.newest F wall < m.sentAtS ∧
        g.accept F msg nowWallS nowMonoS = (g.recordMessage m mono, .ok true) := by
  unfold SessionGuard.accept
  cases msg with
  | none => exact .inl ⟨.ok false, nofun, rfl⟩
  | some m =>
    dsimp only
    rcases hwall : finiteNumber? F nowWallS with e | _ | wall
    · exact .inl ⟨.error e, nofun, rfl⟩
    · exact .inl ⟨.ok false, nofun, rfl⟩
    rcases hmono : finiteNumber? F nowMonoS with e | _ | mono
    · exact .inl ⟨.error e, nofun, rfl⟩
    · exact .inl ⟨.ok false, nofun, rfl⟩
    dsimp only
    split_ifs with hepoch hlast hwindow
    · exact .inl ⟨.ok false, nofun, rfl⟩
    · exact .inl ⟨.ok false, nofun, rfl⟩
    · exact .inl ⟨.ok false, nofun, rfl⟩
    · obtain ⟨hold, hnew⟩ := not_or.mp hwindow
      refine .inr ⟨m, wall, mono, rfl, rfl, rfl, not_not.mp hepoch, ?_, hold, hnew, rfl⟩
      intro last hmem
      by_contra hle
      exact hlast ⟨last, hmem, not_lt.mp hle⟩

omit [IsStrictOrderedRing α] in
/-- **Specification of `reconnect`.**  The epoch increases, and no sample is left. -/
lemma reconnect_spec {g g' : SessionGuard α} {newEpoch : ℤ} {discarded : ℕ}
    (h : g.reconnect newEpoch = .ok (g', discarded)) :
    g.sessionEpoch < g'.sessionEpoch ∧ g'.pendingTeleop = none := by
  unfold SessionGuard.reconnect at h
  by_cases hneg : newEpoch < 0
  · rw [if_pos hneg] at h
    cases h
  by_cases hle : newEpoch ≤ g.sessionEpoch
  · rw [if_neg hneg, if_pos hle] at h
    cases h
  · rw [if_neg hneg, if_neg hle] at h
    obtain ⟨rfl, -⟩ := Prod.mk.inj (Except.ok.inj h)
    refine ⟨?_, rfl⟩
    dsimp only
    omega

lemma le_of_fresh {elapsed : PyFloat α} {timeout : α} (hne : elapsed ≠ .nan) (hpos : 0 < timeout)
    (hage : ¬ elapsed < .fin 0) (hfresh : joyIsStale F elapsed (.fin timeout) = false) :
    .fin 0 ≤ elapsed ∧ elapsed ≤ .fin timeout := by
  have htimeout : joyTimeout F (.fin timeout) = .fin timeout := by
    unfold joyTimeout
    rw [if_neg]
    simpa using hpos
  refine ⟨PyFloat.le_of_not_lt nofun hne hage, PyFloat.le_of_not_lt hne nofun ?_⟩
  intro hlt
  rw [joyIsStale, htimeout, decide_eq_true hlt, Bool.or_true] at hfresh
  cases hfresh

/-- **Specification of `replay_teleop`.**  A sample is replayed only in its own session, and while
its age is within the timeout. -/
lemma replayTeleop_spec {msg : Option (ControlMessage α)}
    {nowMonoS receivedMonoS joyTimeoutS : PyVal α} {currentSessionEpoch : ℤ}
    {expectedAxes expectedButtons : Option ℤ} {out : List (PyFloat α) × List ℤ}
    (h : replayTeleop F msg nowMonoS receivedMonoS joyTimeoutS currentSessionEpoch expectedAxes
      expectedButtons = .ok (some out)) :
    ∃ m now received timeout, msg = some m ∧ (m.sessionEpoch : ℤ) = currentSessionEpoch ∧
      finiteNumber? F nowMonoS = .ok (some now) ∧
      finiteNumber? F receivedMonoS = .ok (some received) ∧
      finiteNumber? F joyTimeoutS = .ok (some timeout) ∧
      .fin 0 ≤ F.sub (.fin now) (.fin received) ∧
      F.sub (.fin now) (.fin received) ≤ .fin timeout := by
  unfold replayTeleop at h
  cases msg with
  | none => cases h
  | some m =>
    dsimp only at h
    split_ifs at h with hkind hepoch
    · cases h
    · cases h
    obtain ⟨-, hsame⟩ := not_or.mp hepoch
    split at h
    · obtain ⟨now?, hnow, h⟩ := exceptBind_eq_ok.mp h
      rcases now? with _ | now
      · cases h
      obtain ⟨received?, hreceived, h⟩ := exceptBind_eq_ok.mp h
      rcases received? with _ | received
      · cases h
      obtain ⟨timeout?, htimeout, h⟩ := exceptBind_eq_ok.mp h
      rcases timeout? with _ | timeout
      · cases h
      dsimp only at h
      split_ifs at h with hpos hstale
      · cases h
      · cases h
      obtain ⟨hage, hfresh⟩ := not_or.mp hstale
      obtain ⟨hzero, hle⟩ := le_of_fresh (F.round_ne_nan _) (not_le.mp hpos) hage
        (Bool.not_eq_true _ ▸ hfresh)
      exact ⟨m, now, received, timeout, rfl, not_not.mp hsame, hnow, hreceived, htimeout, hzero, hle⟩
    · cases h

/-! ## The link -/

/-- The guard, and the samples that have been taken with the times they arrived. -/
structure Link (α : Type) [Field α] [LinearOrder α] where
  guard : SessionGuard α
  taken : List (ControlMessage α × α)

/-- One call of the handler: a frame is offered, the waiting sample is taken, a session starts, or a
sample that was taken is replayed. -/
inductive LinkEvent (α : Type)
  | accept (raw : Option String) (nowWallS nowMonoS : PyVal α)
  | take
  | reconnect (newEpoch : ℤ)
  | replay (index : ℕ) (nowMonoS joyTimeoutS : PyVal α) (expectedAxes expectedButtons : Option ℤ)

/-- What a call that is not refused comes to, with the times it read. -/
inductive LinkNotice (α : Type)
  | accepted (m : ControlMessage α) (wall mono : α)
  | taken (m : ControlMessage α) (received : α)
  | reconnected (epoch : ℕ)
  | replayed (m : ControlMessage α) (now received timeout : α)

variable (F) in
/-- One call.  The replay is given the epoch of the guard as it is then. -/
def step (scan : JsonScan α) (s : Link α) : LinkEvent α → Link α × Option (LinkNotice α)
  | .accept raw nowWallS nowMonoS =>
    match parseControlMessage F scan raw with
    | .error _ => (s, none)
    | .ok msg =>
      let (guard, answer) := s.guard.accept F msg nowWallS nowMonoS
      ({ s with guard := guard },
        match answer, msg, finiteNumber? F nowWallS, finiteNumber? F nowMonoS with
        | .ok true, some m, .ok (some wall), .ok (some mono) => some (.accepted m wall mono)
        | _, _, _, _ => none)
  | .take =>
    match s.guard.takePendingTeleop with
    | (guard, none) => ({ s with guard := guard }, none)
    | (guard, some (m, received)) =>
      (⟨guard, (m, received) :: s.taken⟩, some (.taken m received))
  | .reconnect newEpoch =>
    match s.guard.reconnect newEpoch with
    | .error _ => (s, none)
    | .ok (guard, _) => ({ s with guard := guard }, some (.reconnected guard.sessionEpoch))
  | .replay index nowMonoS joyTimeoutS expectedAxes expectedButtons =>
    match s.taken[index]? with
    | none => (s, none)
    | some (m, received) =>
      (s, match replayTeleop F (some m) nowMonoS (.float (.fin received)) joyTimeoutS
            s.guard.sessionEpoch expectedAxes expectedButtons,
            finiteNumber? F nowMonoS, finiteNumber? F joyTimeoutS with
        | .ok (some _), .ok (some now), .ok (some timeout) =>
          some (.replayed m now received timeout)
        | _, _, _ => none)

variable (F) in
/-- The link as a state machine. -/
def machine (scan : JsonScan α) : Machine (Link α) (LinkEvent α) (Option (LinkNotice α)) :=
  ⟨step F scan⟩

variable (F) in
/-- What a call can do. -/
inductive Transition (s : Link α) : Link α → Option (LinkNotice α) → Prop
  /-- It is refused, or there is nothing to do. -/
  | idle : Transition s s none
  | accepted (m : ControlMessage α) (wall mono : α) (hepoch : m.sessionEpoch = s.guard.sessionEpoch)
      (hlast : ∀ last ∈ s.guard.lastSequence, last < m.sequence)
      (hold : s.guard.oldest F wall ≤ m.sentAtS) (hnew : m.sentAtS ≤ s.guard.newest F wall) :
      Transition s { s with guard := s.guard.recordMessage m mono } (some (.accepted m wall mono))
  | taken (m : ControlMessage α) (received : α) (hpending : s.guard.pendingTeleop = some m)
      (hreceived : s.guard.pendingReceivedMonoS = some received) :
      Transition s
        ⟨{ s.guard with pendingTeleop := none, pendingReceivedMonoS := none },
          (m, received) :: s.taken⟩ (some (.taken m received))
  | reconnected (guard : SessionGuard α) (hepoch : s.guard.sessionEpoch < guard.sessionEpoch)
      (hpending : guard.pendingTeleop = none) :
      Transition s { s with guard := guard } (some (.reconnected guard.sessionEpoch))
  | replayed (m : ControlMessage α) (now received timeout : α) (htaken : (m, received) ∈ s.taken)
      (hepoch : m.sessionEpoch = s.guard.sessionEpoch)
      (hage : .fin 0 ≤ F.sub (.fin now) (.fin received))
      (hfresh : F.sub (.fin now) (.fin received) ≤ .fin timeout) :
      Transition s s (some (.replayed m now received timeout))

lemma transition_accept (scan : JsonScan α) (s : Link α) (raw : Option String)
    (nowWallS nowMonoS : PyVal α) :
    Transition F s (step F scan s (.accept raw nowWallS nowMonoS)).1
      (step F scan s (.accept raw nowWallS nowMonoS)).2 := by
  simp only [step]
  cases hparse : parseControlMessage F scan raw with
  | error e => exact .idle
  | ok msg =>
    dsimp only
    rcases accept_cases (F := F) s.guard msg nowWallS nowMonoS with ⟨answer, hanswer, h⟩ |
      ⟨m, wall, mono, rfl, hwall, hmono, hepoch, hlast, hold, hnew, h⟩
    · rw [h]
      rcases answer with e | _ | _
      · exact .idle
      · exact .idle
      · exact absurd rfl hanswer
    · rw [h, hwall, hmono]
      have hsent : m.sentAtS ≠ .nan := by
        obtain ⟨x, hx⟩ := PyFloat.isFinite_iff.mp (parseControlMessage_spec hparse).1
        rw [hx]
        nofun
      exact .accepted m wall mono hepoch hlast
        (PyFloat.le_of_not_lt (oldest_ne_nan s.guard wall) hsent hold)
        (PyFloat.le_of_not_lt hsent (newest_ne_nan s.guard wall) hnew)

lemma transition_take (scan : JsonScan α) (s : Link α) :
    Transition F s (step F scan s .take).1 (step F scan s .take).2 := by
  simp only [step, SessionGuard.takePendingTeleop]
  cases hpending : s.guard.pendingTeleop with
  | none => exact .idle
  | some m =>
    cases hreceived : s.guard.pendingReceivedMonoS with
    | none => exact .idle
    | some received => exact .taken m received hpending hreceived

lemma transition_reconnect (scan : JsonScan α) (s : Link α) (newEpoch : ℤ) :
    Transition F s (step F scan s (.reconnect newEpoch)).1
      (step F scan s (.reconnect newEpoch)).2 := by
  simp only [step]
  cases h : s.guard.reconnect newEpoch with
  | error e => exact .idle
  | ok p =>
    obtain ⟨hepoch, hpending⟩ := reconnect_spec h
    exact .reconnected p.1 hepoch hpending

lemma transition_replay (scan : JsonScan α) (s : Link α) (index : ℕ)
    (nowMonoS joyTimeoutS : PyVal α) (expectedAxes expectedButtons : Option ℤ) :
    Transition F s
      (step F scan s (.replay index nowMonoS joyTimeoutS expectedAxes expectedButtons)).1
      (step F scan s (.replay index nowMonoS joyTimeoutS expectedAxes expectedButtons)).2 := by
  simp only [step]
  cases htaken : s.taken[index]? with
  | none => exact .idle
  | some p =>
    obtain ⟨m, received⟩ := p
    dsimp only
    rcases hreplay : replayTeleop F (some m) nowMonoS (.float (.fin received)) joyTimeoutS
      s.guard.sessionEpoch expectedAxes expectedButtons with e | _ | out
    · exact .idle
    · exact .idle
    · obtain ⟨m', now, received', timeout, hm, hepoch, hnow, hreceived, htimeout, hage, hfresh⟩ :=
        replayTeleop_spec hreplay
      obtain rfl := Option.some.inj hm
      obtain rfl := Option.some.inj (Except.ok.inj hreceived)
      rw [hnow, htimeout]
      exact .replayed m now received timeout (List.mem_of_getElem? htaken) (by exact_mod_cast hepoch)
        hage hfresh

/-- **Specification of a call.** -/
lemma step_transition (scan : JsonScan α) (s : Link α) (e : LinkEvent α) :
    Transition F s (step F scan s e).1 (step F scan s e).2 := by
  cases e with
  | accept raw nowWallS nowMonoS => exact transition_accept scan s raw nowWallS nowMonoS
  | take => exact transition_take scan s
  | reconnect newEpoch => exact transition_reconnect scan s newEpoch
  | replay index nowMonoS joyTimeoutS expectedAxes expectedButtons =>
    exact transition_replay scan s index nowMonoS joyTimeoutS expectedAxes expectedButtons

/-! ## The ledger -/

/-- The notice takes the sample with this epoch and sequence number. -/
def LinkNotice.takes (epoch sequence : ℕ) : LinkNotice α → Bool
  | .taken m _ => m.sessionEpoch = epoch ∧ m.sequence = sequence
  | .accepted _ _ _ | .reconnected _ | .replayed _ _ _ _ => false

/-- What the first notice requires of one that comes later. -/
def Follows : LinkNotice α → LinkNotice α → Prop
  | .accepted m _ _, .accepted m' _ _ =>
    m.sessionEpoch = m'.sessionEpoch → m.sequence < m'.sequence
  | .accepted m _ _, .reconnected epoch => m.sessionEpoch < epoch
  | .reconnected epoch, .replayed m _ _ _ => epoch ≤ m.sessionEpoch
  | .taken m _, .taken m' _ => m.sessionEpoch = m'.sessionEpoch → m.sequence ≠ m'.sequence
  | _, _ => True

variable (F) in
/-- What relates the link to its notices so far. -/
structure Ledger (s : Link α) (history : List (LinkNotice α)) : Prop where
  order : history.Pairwise Follows
  epochs : ∀ m wall mono, .accepted m wall mono ∈ history →
    m.sessionEpoch ≤ s.guard.sessionEpoch
  last : ∀ m wall mono, .accepted m wall mono ∈ history →
    m.sessionEpoch = s.guard.sessionEpoch → ∃ last ∈ s.guard.lastSequence, m.sequence ≤ last
  sessions : ∀ epoch, .reconnected epoch ∈ history → epoch ≤ s.guard.sessionEpoch
  pending : ∀ m received, s.guard.pendingTeleop = some m →
    s.guard.pendingReceivedMonoS = some received → ∃ wall, .accepted m wall received ∈ history
  waits : ∀ m m' received, s.guard.pendingTeleop = some m → .taken m' received ∈ history →
    m'.sessionEpoch = m.sessionEpoch → m'.sequence ≠ m.sequence
  taken : ∀ m received, .taken m received ∈ history → ∃ wall, .accepted m wall received ∈ history
  held : ∀ m received, (m, received) ∈ s.taken → .taken m received ∈ history
  fresh : ∀ m now received timeout, .replayed m now received timeout ∈ history →
    .taken m received ∈ history ∧ .fin 0 ≤ F.sub (.fin now) (.fin received) ∧
      F.sub (.fin now) (.fin received) ≤ .fin timeout

lemma ledger_init {s : Link α} (hpending : s.guard.pendingTeleop = none) (htaken : s.taken = []) :
    Ledger F s [] where
  order := .nil
  epochs _ _ _ h := absurd h List.not_mem_nil
  last _ _ _ h := absurd h List.not_mem_nil
  sessions _ h := absurd h List.not_mem_nil
  pending m _ h := by
    rw [hpending] at h
    cases h
  waits _ _ _ _ h := absurd h List.not_mem_nil
  taken _ _ h := absurd h List.not_mem_nil
  held _ _ h := by
    rw [htaken] at h
    exact absurd h List.not_mem_nil
  fresh _ _ _ _ h := absurd h List.not_mem_nil

variable {s : Link α} {history : List (LinkNotice α)}

omit [Field α] [LinearOrder α] [IsStrictOrderedRing α] in
/-- A notice joins the order when everything before it lets it follow. -/
lemma pairwise_concat {n : LinkNotice α} (horder : history.Pairwise Follows)
    (hfollows : ∀ a ∈ history, Follows a n) : (history ++ [n]).Pairwise Follows := by
  refine List.pairwise_append.mpr ⟨horder, List.pairwise_singleton _ _, ?_⟩
  intro a ha b hb
  rw [List.mem_singleton.mp hb]
  exact hfollows a ha

lemma Ledger.accepted (hl : Ledger F s history) {m : ControlMessage α} {wall mono : α}
    (hepoch : m.sessionEpoch = s.guard.sessionEpoch)
    (hlast : ∀ last ∈ s.guard.lastSequence, last < m.sequence) :
    Ledger F { s with guard := s.guard.recordMessage m mono }
      (history ++ [.accepted m wall mono]) := by
  -- whatever was accepted in the session before has a smaller number
  have hbefore : ∀ m' wall' mono', .accepted m' wall' mono' ∈ history →
      m'.sessionEpoch = m.sessionEpoch → m'.sequence < m.sequence := by
    intro m' wall' mono' hmem hsame
    obtain ⟨last, hsome, hle⟩ := hl.last m' wall' mono' hmem (hsame.trans hepoch)
    exact hle.trans_lt (hlast last hsome)
  refine ⟨pairwise_concat hl.order ?_, ?_, ?_, ?_, ?_, ?_, ?_, ?_, ?_⟩
  · intro a ha
    cases a with
    | accepted m' wall' mono' => exact hbefore m' wall' mono' ha
    | _ => trivial
  · intro m' wall' mono' hmem
    rw [SessionGuard.sessionEpoch_recordMessage]
    rcases List.mem_append.mp hmem with h | h
    · exact hl.epochs m' wall' mono' h
    · cases List.mem_singleton.mp h
      exact hepoch.le
  · intro m' wall' mono' hmem hsame
    rw [SessionGuard.sessionEpoch_recordMessage] at hsame
    refine ⟨m.sequence, SessionGuard.lastSequence_recordMessage s.guard m mono, ?_⟩
    rcases List.mem_append.mp hmem with h | h
    · exact (hbefore m' wall' mono' h (hsame.trans hepoch.symm)).le
    · cases List.mem_singleton.mp h
      exact le_rfl
  · intro epoch hmem
    rw [SessionGuard.sessionEpoch_recordMessage]
    rcases List.mem_append.mp hmem with h | h
    · exact hl.sessions epoch h
    · cases List.mem_singleton.mp h
  · intro m' received hpending hreceived
    rcases SessionGuard.pending_recordMessage s.guard m mono with ⟨hm, hmono⟩ | ⟨hm, hmono⟩
    · obtain rfl := Option.some.inj (hm.symm.trans hpending)
      obtain rfl := Option.some.inj (hmono.symm.trans hreceived)
      exact ⟨wall, List.mem_append_right history (List.mem_singleton_self _)⟩
    · obtain ⟨wall', hmem⟩ :=
        hl.pending m' received (hm.symm.trans hpending) (hmono.symm.trans hreceived)
      exact ⟨wall', List.mem_append_left _ hmem⟩
  · intro m' m'' received hpending hmem hsame
    rcases List.mem_append.mp hmem with h | h
    · rcases SessionGuard.pending_recordMessage s.guard m mono with ⟨hm, -⟩ | ⟨hm, -⟩
      · obtain rfl := Option.some.inj (hm.symm.trans hpending)
        obtain ⟨wall', haccepted⟩ := hl.taken m'' received h
        exact (hbefore m'' wall' received haccepted hsame).ne
      · exact hl.waits m' m'' received (hm.symm.trans hpending) h hsame
    · cases List.mem_singleton.mp h
  · intro m' received hmem
    rcases List.mem_append.mp hmem with h | h
    · obtain ⟨wall', haccepted⟩ := hl.taken m' received h
      exact ⟨wall', List.mem_append_left _ haccepted⟩
    · cases List.mem_singleton.mp h
  · exact fun m' received hmem => List.mem_append_left _ (hl.held m' received hmem)
  · intro m' now received timeout hmem
    rcases List.mem_append.mp hmem with h | h
    · obtain ⟨htaken, hage⟩ := hl.fresh m' now received timeout h
      exact ⟨List.mem_append_left _ htaken, hage⟩
    · cases List.mem_singleton.mp h

lemma Ledger.take (hl : Ledger F s history) {m : ControlMessage α} {received : α}
    (hpending : s.guard.pendingTeleop = some m)
    (hreceived : s.guard.pendingReceivedMonoS = some received) :
    Ledger F
      ⟨{ s.guard with pendingTeleop := none, pendingReceivedMonoS := none },
        (m, received) :: s.taken⟩ (history ++ [.taken m received]) := by
  refine ⟨pairwise_concat hl.order ?_, ?_, ?_, ?_, ?_, ?_, ?_, ?_, ?_⟩
  · intro a ha
    cases a with
    | taken m' received' => exact hl.waits m m' received' hpending ha
    | _ => trivial
  · exact fun m' wall mono hmem => hl.epochs m' wall mono (by simpa using hmem)
  · exact fun m' wall mono hmem => hl.last m' wall mono (by simpa using hmem)
  · exact fun epoch hmem => hl.sessions epoch (by simpa using hmem)
  · intro m' received' hnone
    cases hnone
  · intro m' m'' received' hnone
    cases hnone
  · intro m' received' hmem
    rcases List.mem_append.mp hmem with h | h
    · obtain ⟨wall, haccepted⟩ := hl.taken m' received' h
      exact ⟨wall, List.mem_append_left _ haccepted⟩
    · cases List.mem_singleton.mp h
      obtain ⟨wall, haccepted⟩ := hl.pending m received hpending hreceived
      exact ⟨wall, List.mem_append_left _ haccepted⟩
  · intro m' received' hmem
    rcases List.mem_cons.mp hmem with h | h
    · cases h
      exact List.mem_append_right history (List.mem_singleton_self _)
    · exact List.mem_append_left _ (hl.held m' received' h)
  · intro m' now received' timeout hmem
    obtain ⟨htaken, hage⟩ := hl.fresh m' now received' timeout (by simpa using hmem)
    exact ⟨List.mem_append_left _ htaken, hage⟩

lemma Ledger.reconnect (hl : Ledger F s history) {guard : SessionGuard α}
    (hepoch : s.guard.sessionEpoch < guard.sessionEpoch) (hpending : guard.pendingTeleop = none) :
    Ledger F { s with guard := guard } (history ++ [.reconnected guard.sessionEpoch]) := by
  refine ⟨pairwise_concat hl.order ?_, ?_, ?_, ?_, ?_, ?_, ?_, ?_, ?_⟩
  · intro a ha
    cases a with
    | accepted m wall mono => exact (hl.epochs m wall mono ha).trans_lt hepoch
    | _ => trivial
  · intro m wall mono hmem
    exact (hl.epochs m wall mono (by simpa using hmem)).trans hepoch.le
  · -- nothing has been accepted in the new session
    intro m wall mono hmem hsame
    have hle := hl.epochs m wall mono (by simpa using hmem)
    exact absurd (hsame ▸ hle) hepoch.not_ge
  · intro epoch hmem
    rcases List.mem_append.mp hmem with h | h
    · exact (hl.sessions epoch h).trans hepoch.le
    · cases List.mem_singleton.mp h
      exact le_rfl
  · intro m received hsome
    rw [hpending] at hsome
    cases hsome
  · intro m m' received hsome
    rw [hpending] at hsome
    cases hsome
  · intro m received hmem
    obtain ⟨wall, haccepted⟩ := hl.taken m received (by simpa using hmem)
    exact ⟨wall, List.mem_append_left _ haccepted⟩
  · exact fun m received hmem => List.mem_append_left _ (hl.held m received hmem)
  · intro m now received timeout hmem
    obtain ⟨htaken, hage⟩ := hl.fresh m now received timeout (by simpa using hmem)
    exact ⟨List.mem_append_left _ htaken, hage⟩

lemma Ledger.replay (hl : Ledger F s history) {m : ControlMessage α} {now received timeout : α}
    (htaken : (m, received) ∈ s.taken) (hepoch : m.sessionEpoch = s.guard.sessionEpoch)
    (hage : .fin 0 ≤ F.sub (.fin now) (.fin received))
    (hfresh : F.sub (.fin now) (.fin received) ≤ .fin timeout) :
    Ledger F s (history ++ [.replayed m now received timeout]) := by
  refine ⟨pairwise_concat hl.order ?_, ?_, ?_, ?_, ?_, ?_, ?_, ?_, ?_⟩
  · intro a ha
    cases a with
    | reconnected epoch => exact (hl.sessions epoch ha).trans hepoch.ge
    | _ => trivial
  · exact fun m' wall mono hmem => hl.epochs m' wall mono (by simpa using hmem)
  · exact fun m' wall mono hmem => hl.last m' wall mono (by simpa using hmem)
  · exact fun epoch hmem => hl.sessions epoch (by simpa using hmem)
  · intro m' received' hsome hreceived
    obtain ⟨wall, haccepted⟩ := hl.pending m' received' hsome hreceived
    exact ⟨wall, List.mem_append_left _ haccepted⟩
  · exact fun m' m'' received' hsome hmem => hl.waits m' m'' received' hsome (by simpa using hmem)
  · intro m' received' hmem
    obtain ⟨wall, haccepted⟩ := hl.taken m' received' (by simpa using hmem)
    exact ⟨wall, List.mem_append_left _ haccepted⟩
  · exact fun m' received' hmem => List.mem_append_left _ (hl.held m' received' hmem)
  · intro m' now' received' timeout' hmem
    rcases List.mem_append.mp hmem with h | h
    · obtain ⟨htaken', hage'⟩ := hl.fresh m' now' received' timeout' h
      exact ⟨List.mem_append_left _ htaken', hage'⟩
    · cases List.mem_singleton.mp h
      exact ⟨List.mem_append_left _ (hl.held m received htaken), hage, hfresh⟩

/-- Every call keeps the ledger. -/
lemma ledger_step (hl : Ledger F s history) (scan : JsonScan α) (e : LinkEvent α) :
    Ledger F (step F scan s e).1 (history ++ (step F scan s e).2.toList) := by
  have htransition := step_transition (F := F) scan s e
  generalize (step F scan s e).1 = s', (step F scan s e).2 = n at htransition ⊢
  cases htransition with
  | idle => exact (List.append_nil history).symm ▸ hl
  | accepted m wall mono hepoch hlast _ _ => exact hl.accepted hepoch hlast
  | taken m received hpending hreceived => exact hl.take hpending hreceived
  | reconnected guard hepoch hpending => exact hl.reconnect hepoch hpending
  | replayed m now received timeout htaken hepoch hage hfresh =>
    exact hl.replay htaken hepoch hage hfresh

/-! ## Runs -/

/-- Among elements that cannot follow one another there is at most one. -/
lemma countP_le_one {β : Type*} {R : β → β → Prop} {p : β → Bool} {xs : List β}
    (h : xs.Pairwise R) (hp : ∀ a b, p a = true → p b = true → ¬ R a b) : xs.countP p ≤ 1 := by
  induction h with
  | nil => exact Nat.zero_le 1
  | @cons a xs ha _ ih =>
    by_cases hpa : p a = true
    · have hzero : xs.countP p = 0 :=
        List.countP_eq_zero.mpr fun b hb hpb => hp a b hpa hpb (ha b hb)
      rw [List.countP_cons_of_pos hpa, hzero]
    · rw [List.countP_cons_of_neg hpa]
      exact ih

omit [Field α] [LinearOrder α] [IsStrictOrderedRing α] in
lemma not_follows_of_takes {epoch sequence : ℕ} {a b : LinkNotice α}
    (ha : a.takes epoch sequence = true) (hb : b.takes epoch sequence = true) : ¬ Follows a b := by
  cases a with
  | taken m received =>
    cases b with
    | taken m' received' =>
      obtain ⟨hepoch, hsequence⟩ := of_decide_eq_true ha
      obtain ⟨hepoch', hsequence'⟩ := of_decide_eq_true hb
      exact fun h => h (hepoch.trans hepoch'.symm) (hsequence.trans hsequence'.symm)
    | _ => cases hb
  | _ => cases ha

variable (F) in
/-- The link of a new guard after the calls. -/
def linkAfter (scan : JsonScan α) (guard : SessionGuard α) (es : List (LinkEvent α)) : Link α :=
  (machine F scan).run ⟨guard, []⟩ es

variable (F) in
/-- What the calls have come to, in order. -/
def notices (scan : JsonScan α) (guard : SessionGuard α) (es : List (LinkEvent α)) :
    List (LinkNotice α) :=
  (machine F scan).emitted ⟨guard, []⟩ es

lemma pending_of_build {sessionEpoch maxClockSkewS validForS : PyVal α} {guard : SessionGuard α}
    (h : SessionGuard.build F sessionEpoch maxClockSkewS validForS = .ok guard) :
    guard.pendingTeleop = none := by
  unfold SessionGuard.build at h
  split at h
  · cases h
  · cases h
  · cases h
  · split_ifs at h
    rw [← Except.ok.inj h]

lemma ledger_run {guard : SessionGuard α} (hpending : guard.pendingTeleop = none)
    (scan : JsonScan α) (es : List (LinkEvent α)) :
    Ledger F (linkAfter F scan guard es) (notices F scan guard es) := by
  refine Machine.run_history (M := machine F scan)
    (I := fun past t => Ledger F t (notices F scan guard past)) (ledger_init hpending rfl) ?_ es
  intro past e hl
  have hnotices : notices F scan guard (past ++ [e]) =
      notices F scan guard past ++ (step F scan (linkAfter F scan guard past) e).2.toList := by
    unfold notices
    rw [Machine.emitted_append, Machine.emitted_singleton]
    rfl
  rw [hnotices]
  exact ledger_step hl scan e

/-- **Specification of the sessions.**  In every run of the link from a new guard: what is accepted
belongs to the current session, comes after everything accepted in it before, and was sent inside of
the window; an offer that is not accepted changes nothing; a sample is taken at most once; what was
accepted before a reconnect is not replayed after it; and a replayed sample was accepted at most the
timeout ago. -/
theorem session_replay {sessionEpoch maxClockSkewS validForS : PyVal α} {guard : SessionGuard α}
    (hnew : SessionGuard.build F sessionEpoch maxClockSkewS validForS = .ok guard)
    (scan : JsonScan α) (es : List (LinkEvent α)) :
    (∀ e m wall mono,
      (step F scan (linkAfter F scan guard es) e).2 = some (.accepted m wall mono) →
        m.sessionEpoch = (linkAfter F scan guard es).guard.sessionEpoch ∧
        (∀ m' wall' mono', .accepted m' wall' mono' ∈ notices F scan guard es →
          m'.sessionEpoch = (linkAfter F scan guard es).guard.sessionEpoch →
            m'.sequence < m.sequence) ∧
        (linkAfter F scan guard es).guard.oldest F wall ≤ m.sentAtS ∧
        m.sentAtS ≤ (linkAfter F scan guard es).guard.newest F wall) ∧
      (∀ raw nowWallS nowMonoS,
        (step F scan (linkAfter F scan guard es) (.accept raw nowWallS nowMonoS)).2 = none →
          (step F scan (linkAfter F scan guard es) (.accept raw nowWallS nowMonoS)).1 =
            linkAfter F scan guard es) ∧
      (∀ epoch sequence,
        (notices F scan guard es).countP (LinkNotice.takes epoch sequence) ≤ 1) ∧
      (∀ before epoch later, notices F scan guard es = before ++ .reconnected epoch :: later →
        ∀ m wall mono, .accepted m wall mono ∈ before →
          ∀ now received timeout, .replayed m now received timeout ∉ later) ∧
      ∀ m now received timeout, .replayed m now received timeout ∈ notices F scan guard es →
        (∃ wall, .accepted m wall received ∈ notices F scan guard es) ∧
        .fin 0 ≤ F.sub (.fin now) (.fin received) ∧
        F.sub (.fin now) (.fin received) ≤ .fin timeout := by
  have hl := ledger_run (F := F) (pending_of_build hnew) scan es
  refine ⟨?_, ?_, ?_, ?_, ?_⟩
  · intro e m wall mono hnotice
    have htransition := step_transition (F := F) scan (linkAfter F scan guard es) e
    rw [hnotice] at htransition
    generalize (step F scan (linkAfter F scan guard es) e).1 = s' at htransition
    cases htransition with
    | accepted _ _ _ hepoch hlast hold hnew =>
      refine ⟨hepoch, ?_, hold, hnew⟩
      intro m' wall' mono' hmem hsame
      obtain ⟨last, hsome, hle⟩ := hl.last m' wall' mono' hmem hsame
      exact hle.trans_lt (hlast last hsome)
  · intro raw nowWallS nowMonoS hnone
    have htransition :=
      step_transition (F := F) scan (linkAfter F scan guard es) (.accept raw nowWallS nowMonoS)
    rw [hnone] at htransition
    generalize (step F scan (linkAfter F scan guard es) (.accept raw nowWallS nowMonoS)).1 = s'
      at htransition ⊢
    cases htransition with
    | idle => rfl
  · exact fun epoch sequence => countP_le_one hl.order fun _ _ => not_follows_of_takes
  · intro before epoch later heq m wall mono haccepted now received timeout hreplayed
    have horder := hl.order
    rw [heq] at horder
    obtain ⟨-, hlater, hcross⟩ := List.pairwise_append.mp horder
    have hlt : m.sessionEpoch < epoch := hcross _ haccepted _ List.mem_cons_self
    have hle : epoch ≤ m.sessionEpoch := (List.pairwise_cons.mp hlater).1 _ hreplayed
    exact hlt.not_ge hle
  · intro m now received timeout hmem
    obtain ⟨htaken, hage⟩ := hl.fresh m now received timeout hmem
    exact ⟨hl.taken m received htaken, hage⟩

/-! ### A sample that is replayed -/

/-- A frame with a sample of no axes and no buttons. -/
def teleopText : String :=
  "\x7b\"kind\": \"teleop\", \"session_epoch\": 1, \"sequence\": 7, \"sent_at_s\": 10, " ++
    "\"axes\": [], \"buttons\": []\x7d"

/-- The decoder on that frame; any other text is not JSON here. -/
def teleopScan : JsonScan ℚ := fun text =>
  if text = teleopText then
    .ok (.dict [("kind", .str "teleop"), ("session_epoch", .int 1), ("sequence", .int 7),
      ("sent_at_s", .int 10), ("axes", .list []), ("buttons", .list [])])
  else .error .valueError

/-- The message of that frame. -/
def teleopMessage : ControlMessage ℚ := ⟨.teleop, 1, 7, .fin 10, .teleop [] []⟩

/-- A new guard without a tolerance of the clocks. -/
def firstGuard : SessionGuard ℚ := ⟨0, 1, le_rfl, one_pos, 1, none, none, none, 0⟩

/-- The sample is accepted, taken, and replayed half a second later. -/
def replayRun : List (LinkEvent ℚ) :=
  [.accept (some teleopText) (.int 10) (.int 0), .take,
    .replay 0 (.float (.fin (1 / 2))) (.int 1) none none]

lemma notices_replayRun :
    (notices (.exact ℚ) teleopScan firstGuard replayRun)[2]? =
      some (.replayed teleopMessage (1 / 2) 0 1) := by
  with_unfolding_all rfl

theorem replayRun_fresh :
    (∃ wall, .accepted teleopMessage wall 0 ∈
        notices (.exact ℚ) teleopScan firstGuard replayRun) ∧
      .fin 0 ≤ (FloatFormat.exact ℚ).sub (.fin (1 / 2)) (.fin 0) ∧
      (FloatFormat.exact ℚ).sub (.fin (1 / 2)) (.fin 0) ≤ .fin 1 := by
  have hnew : SessionGuard.build (.exact ℚ) (.int 1) (.int 0) (.int 1) = .ok firstGuard := by
    with_unfolding_all rfl
  exact (session_replay hnew teleopScan replayRun).2.2.2.2 teleopMessage (1 / 2) 0 1
    (List.mem_of_getElem? notices_replayRun)

end OperatorLink

end MiniatureWarehouse
