import MiniatureWarehouse.Nav2Bridge.Sections

/-!
# The accounting of the goals

Every id that the bridge has accepted is accounted for: it is the record of its robot, or a poll has
reported it, or a stop has answered with it, or a later request of the same robot took its place.
`Books` is the invariant behind this.  It relates the records of the core to what has left the bridge
so far, and every lock section keeps it, whatever the backend answers and whatever came between a
request and its lock.
-/

namespace MiniatureWarehouse

/-- The notice is a result of the task. -/
def Notice.reports (taskId : String) : Notice → Bool
  | .result r => r.taskId = taskId
  | .accepted _ _ | .stopped _ _ => false

/-- The notice accepts a request. -/
def Notice.accepts : Notice → Bool
  | .accepted _ _ => true
  | .stopped _ _ | .result _ => false

/-- The task has not ended. -/
def NavTask.IsOpen {α : Type} (task : NavTask α) : Prop := ∀ result, task.navStatus ≠ .done result

namespace Nav2BridgeCore

variable {α : Type}

/-! ## Ids -/

/-- The id has been given out. -/
def Minted (c : Nav2BridgeCore α) (taskId : String) : Prop :=
  (∃ k ≤ c.navSeq, taskId = "nav_" ++ format03d k) ∨
    ∃ k ≤ c.waitSeq, taskId = "wait_" ++ format03d k

lemma minted_mono {c c' : Nav2BridgeCore α} (hnav : c.navSeq ≤ c'.navSeq)
    (hwait : c.waitSeq ≤ c'.waitSeq) {taskId : String} (h : c.Minted taskId) :
    c'.Minted taskId := by
  rcases h with ⟨k, hk, h⟩ | ⟨k, hk, h⟩
  · exact .inl ⟨k, hk.trans hnav, h⟩
  · exact .inr ⟨k, hk.trans hwait, h⟩

lemma nav_ne_wait (j k : ℕ) : "nav_" ++ format03d j ≠ "wait_" ++ format03d k := by
  intro h
  have hlist := congrArg String.toList h
  rw [String.toList_append, String.toList_append] at hlist
  have hhead := congrArg List.head? hlist
  simp at hhead

lemma prefix_format03d_injective (label : String) {j k : ℕ}
    (h : label ++ format03d j = label ++ format03d k) : j = k := by
  apply format03d_injective
  have hlist := congrArg String.toList h
  rw [String.toList_append, String.toList_append] at hlist
  exact String.toList_inj.mp (List.append_cancel_left hlist)

lemma not_minted_nav (c : Nav2BridgeCore α) : ¬ c.Minted ("nav_" ++ format03d (c.navSeq + 1)) := by
  rintro (⟨k, hk, h⟩ | ⟨k, -, h⟩)
  · have heq := prefix_format03d_injective "nav_" h
    omega
  · exact nav_ne_wait _ _ h

lemma not_minted_wait (c : Nav2BridgeCore α) :
    ¬ c.Minted ("wait_" ++ format03d (c.waitSeq + 1)) := by
  rintro (⟨k, -, h⟩ | ⟨k, hk, h⟩)
  · exact nav_ne_wait _ _ h.symm
  · have heq := prefix_format03d_injective "wait_" h
    omega

/-! ## The books -/

/-- An accepted id is the record of its robot, or has been reported, or was the answer of a stop, or
the robot has been given a later task. -/
def Accounted (c : Nav2BridgeCore α) (robot taskId : String) (later : List Notice) : Prop :=
  (∃ task, c.active.get? robot = some task ∧ task.taskId = taskId) ∨
    (∃ result, .result ⟨robot, taskId, result⟩ ∈ later) ∨
    .stopped robot (some taskId) ∈ later ∨ ∃ taskId', .accepted robot taskId' ∈ later

/-- What relates the records to the notices so far. -/
structure Books (c : Nav2BridgeCore α) (history : List Notice) : Prop where
  minted : ∀ robot taskId, .accepted robot taskId ∈ history → c.Minted taskId
  owner : ∀ robot robot' taskId, .accepted robot taskId ∈ history →
    .accepted robot' taskId ∈ history → robot = robot'
  held : ∀ robot task, c.active.get? robot = some task → .accepted robot task.taskId ∈ history
  reported : ∀ r, .result r ∈ history → .accepted r.robot r.taskId ∈ history
  once : ∀ taskId, history.countP (Notice.reports taskId) ≤ 1
  unreported : ∀ robot task, c.active.get? robot = some task → task.IsOpen →
    history.countP (Notice.reports task.taskId) = 0
  accounted : ∀ before robot taskId later, history = before ++ .accepted robot taskId :: later →
    c.Accounted robot taskId later

lemma books_init (robots : List String) (locations : Dict String (Pose α)) :
    (init robots locations).Books [] where
  minted _ _ h := absurd h List.not_mem_nil
  owner _ _ _ h := absurd h List.not_mem_nil
  held _ _ h := by cases h
  reported _ h := absurd h List.not_mem_nil
  once _ := Nat.zero_le 1
  unreported _ _ h := by cases h
  accounted before _ _ later h := by simp at h

/-- An acceptance in an extended history is the new notice or stands in the old history. -/
lemma append_singleton_eq {history before later : List Notice} {n a : Notice}
    (h : history ++ [n] = before ++ a :: later) :
    (later = [] ∧ n = a ∧ before = history) ∨
      ∃ later', later = later' ++ [n] ∧ history = before ++ a :: later' := by
  rcases List.eq_nil_or_concat later with rfl | ⟨later', last, rfl⟩
  · obtain ⟨hbefore, hlast⟩ := List.append_inj' h rfl
    exact .inl ⟨rfl, (List.cons.inj hlast).1, hbefore.symm⟩
  · rw [List.concat_eq_append, ← List.cons_append, ← List.append_assoc] at h
    obtain ⟨hbefore, hlast⟩ := List.append_inj' h rfl
    obtain rfl := (List.cons.inj hlast).1
    exact .inr ⟨later', List.concat_eq_append, hbefore⟩

variable {c : Nav2BridgeCore α} {history : List Notice} {robot : String} {task : NavTask α}

/-- A notice that is none of a result does not change what is reported. -/
lemma countP_append_of_not_reports {n : Notice} (hn : ∀ taskId, n.reports taskId = false)
    (taskId : String) :
    (history ++ [n]).countP (Notice.reports taskId) = history.countP (Notice.reports taskId) := by
  rw [List.countP_append, List.countP_singleton, hn taskId]
  rfl

/-- A result is only of an id that was given out. -/
lemma Books.countP_eq_zero (hb : c.Books history) {taskId : String} (h : ¬ c.Minted taskId) :
    history.countP (Notice.reports taskId) = 0 := by
  rw [List.countP_eq_zero]
  intro n hn hreports
  cases n with
  | result r =>
    obtain rfl : r.taskId = taskId := of_decide_eq_true hreports
    exact h (hb.minted _ _ (hb.reported r hn))
  | accepted _ _ => cases hreports
  | stopped _ _ => cases hreports

lemma accepted_mem_append {n : Notice} (hn : n.accepts = false) {robot taskId : String} :
    .accepted robot taskId ∈ history ++ [n] ↔ .accepted robot taskId ∈ history := by
  rw [List.mem_append, List.mem_singleton]
  refine or_iff_left ?_
  rintro rfl
  cases hn

/-- What accounts for an id goes on to do so, but for the record. -/
lemma Accounted.append {c' : Nav2BridgeCore α} {taskId : String} {later : List Notice} {n : Notice}
    (h : c.Accounted robot taskId later)
    (hrecord : ∀ task, c.active.get? robot = some task → task.taskId = taskId →
      c'.Accounted robot taskId (later ++ [n])) : c'.Accounted robot taskId (later ++ [n]) := by
  rcases h with ⟨task, hget, hid⟩ | ⟨result, hmem⟩ | hmem | ⟨taskId', hmem⟩
  · exact hrecord task hget hid
  · exact .inr (.inl ⟨result, List.mem_append_left _ hmem⟩)
  · exact .inr (.inr (.inl (List.mem_append_left _ hmem)))
  · exact .inr (.inr (.inr ⟨taskId', List.mem_append_left _ hmem⟩))

/-! ## What a section does to the books -/

lemma Books.nothing (hb : c.Books history) : c.Books (history ++ []) := by
  rw [List.append_nil]
  exact hb

/-- A new task replaces the record of its robot. -/
lemma Books.accept (hb : c.Books history) (task : NavTask α) {c' : Nav2BridgeCore α}
    (hactive : c'.active = c.active.set robot task)
    (hnav : c.navSeq ≤ c'.navSeq) (hwait : c.waitSeq ≤ c'.waitSeq) (hnew : c'.Minted task.taskId)
    (hfresh : ¬ c.Minted task.taskId) :
    c'.Books (history ++ [.accepted robot task.taskId]) where
  minted r taskId h := by
    rcases List.mem_append.mp h with h | h
    · exact minted_mono hnav hwait (hb.minted r taskId h)
    · injection List.mem_singleton.mp h with _ hid
      rw [hid]
      exact hnew
  owner r r' taskId h h' := by
    rcases List.mem_append.mp h with h | h <;> rcases List.mem_append.mp h' with h' | h'
    · exact hb.owner r r' taskId h h'
    · injection List.mem_singleton.mp h' with _ hid
      exact absurd (hid ▸ hb.minted r taskId h) hfresh
    · injection List.mem_singleton.mp h with _ hid
      exact absurd (hid ▸ hb.minted r' taskId h') hfresh
    · injection List.mem_singleton.mp h with hr
      injection List.mem_singleton.mp h' with hr'
      rw [hr, hr']
  held r t h := by
    rw [hactive, Dict.get?_set] at h
    split_ifs at h with hr
    · rw [← Option.some.inj h, hr]
      exact List.mem_append_right history (List.mem_singleton_self _)
    · exact List.mem_append_left _ (hb.held r t h)
  reported r h := by
    rcases List.mem_append.mp h with h | h
    · exact List.mem_append_left _ (hb.reported r h)
    · cases List.mem_singleton.mp h
  once taskId := by
    rw [countP_append_of_not_reports fun _ => rfl]
    exact hb.once taskId
  unreported r t h hopen := by
    rw [countP_append_of_not_reports fun _ => rfl]
    rw [hactive, Dict.get?_set] at h
    split_ifs at h with hr
    · rw [← Option.some.inj h]
      exact hb.countP_eq_zero hfresh
    · exact hb.unreported r t h hopen
  accounted before r taskId later h := by
    rcases append_singleton_eq h with ⟨rfl, hn, -⟩ | ⟨later', rfl, hold⟩
    · injection hn with hr hid
      refine .inl ⟨task, ?_, hid⟩
      rw [hactive, ← hr, Dict.get?_set_self]
    · refine (hb.accounted before r taskId later' hold).append fun t hget hid => ?_
      by_cases hr : r = robot
      · refine .inr (.inr (.inr ⟨task.taskId, ?_⟩))
        rw [hr]
        exact List.mem_append_right later' (List.mem_singleton_self _)
      · refine .inl ⟨t, ?_, hid⟩
        rw [hactive, Dict.get?_set_of_ne _ _ hr, hget]

/-- A stop answers with the record that it takes. -/
lemma Books.stop (hb : c.Books history) (robot : String) :
    ({ c with active := c.active.erase robot } : Nav2BridgeCore α).Books
      (history ++ [.stopped robot ((c.active.get? robot).map NavTask.taskId)]) where
  minted r taskId h := hb.minted r taskId ((accepted_mem_append rfl).mp h)
  owner r r' taskId h h' := hb.owner r r' taskId ((accepted_mem_append rfl).mp h)
    ((accepted_mem_append rfl).mp h')
  held r t h := by
    rw [Dict.get?_erase] at h
    split_ifs at h
    exact List.mem_append_left _ (hb.held r t h)
  reported r h := by
    rcases List.mem_append.mp h with h | h
    · exact List.mem_append_left _ (hb.reported r h)
    · cases List.mem_singleton.mp h
  once taskId := by
    rw [countP_append_of_not_reports fun _ => rfl]
    exact hb.once taskId
  unreported r t h hopen := by
    rw [countP_append_of_not_reports fun _ => rfl]
    rw [Dict.get?_erase] at h
    split_ifs at h
    exact hb.unreported r t h hopen
  accounted before r taskId later h := by
    rcases append_singleton_eq h with ⟨-, hn, -⟩ | ⟨later', rfl, hold⟩
    · cases hn
    · refine (hb.accounted before r taskId later' hold).append fun t hget hid => ?_
      by_cases hr : r = robot
      · refine .inr (.inr (.inl ?_))
        rw [hr] at hget ⊢
        rw [hget, Option.map_some, hid]
        exact List.mem_append_right later' (List.mem_singleton_self _)
      · refine .inl ⟨t, ?_, hid⟩
        rw [Dict.get?_erase_of_ne _ hr, hget]

/-- A record that moves to its result keeps its id. -/
lemma Books.finish (hb : c.Books history) (hget : c.active.get? robot = some task)
    (result : NavResult) :
    ({ c with active := c.active.set robot { task with navStatus := .done result } } :
      Nav2BridgeCore α).Books history where
  minted := hb.minted
  owner := hb.owner
  held r t h := by
    rw [Dict.get?_set] at h
    split_ifs at h with hr
    · rw [← Option.some.inj h, hr]
      exact hb.held robot task hget
    · exact hb.held r t h
  reported := hb.reported
  once := hb.once
  unreported r t h hopen := by
    rw [Dict.get?_set] at h
    split_ifs at h with hr
    · rw [← Option.some.inj h] at hopen
      exact absurd rfl (hopen result)
    · exact hb.unreported r t h hopen
  accounted before r taskId later h := by
    refine (hb.accounted before r taskId later h).imp_left ?_
    rintro ⟨t, ht, hid⟩
    by_cases hr : r = robot
    · rw [hr, hget] at ht
      refine ⟨{ task with navStatus := .done result }, ?_, ?_⟩
      · rw [hr, Dict.get?_set_self]
      · rw [← hid, ← Option.some.inj ht]
    · exact ⟨t, by rw [Dict.get?_set_of_ne _ _ hr, ht], hid⟩

/-- The result of a record that has ended is reported, if it was not before. -/
lemma Books.report (hb : c.Books history) (task : NavTask α) (hget : c.active.get? robot = some task)
    {result : NavResult} (hdone : task.navStatus = .done result)
    (hzero : history.countP (Notice.reports task.taskId) = 0) :
    c.Books (history ++ [.result ⟨robot, task.taskId, result⟩]) where
  minted r taskId h := hb.minted r taskId ((accepted_mem_append rfl).mp h)
  owner r r' taskId h h' := hb.owner r r' taskId ((accepted_mem_append rfl).mp h)
    ((accepted_mem_append rfl).mp h')
  held r t h := List.mem_append_left _ (hb.held r t h)
  reported r h := by
    rcases List.mem_append.mp h with h | h
    · exact List.mem_append_left _ (hb.reported r h)
    · injection List.mem_singleton.mp h with hr
      rw [hr]
      exact List.mem_append_left _ (hb.held robot task hget)
  once taskId := by
    rw [List.countP_append, List.countP_singleton]
    by_cases hid : task.taskId = taskId
    · rw [← hid, hzero]
      split_ifs <;> simp
    · rw [if_neg (by simpa [Notice.reports] using hid), Nat.add_zero]
      exact hb.once taskId
  unreported r t h hopen := by
    have hother : t.taskId ≠ task.taskId := by
      intro hid
      obtain rfl := hb.owner r robot t.taskId (hb.held r t h) (hid ▸ hb.held robot task hget)
      obtain rfl := Option.some.inj (h.symm.trans hget)
      exact hopen result hdone
    rw [List.countP_append, List.countP_singleton, hb.unreported r t h hopen,
      if_neg (by simpa [Notice.reports] using hother.symm)]
  accounted before r taskId later h := by
    rcases append_singleton_eq h with ⟨-, hn, -⟩ | ⟨later', rfl, hold⟩
    · cases hn
    · exact (hb.accounted before r taskId later' hold).append fun t hget hid => .inl ⟨t, hget, hid⟩

section Sections

variable [LinearOrder α]

/-- Only a task that has not ended comes to its result. -/
lemma isOpen_of_askCompleted {B : Backend α} {now : PyFloat α} {result : NavResult}
    (h : askCompleted B now robot task = .ok (some result)) : task.IsOpen := by
  intro r hdone
  obtain ⟨taskId, status, action⟩ := task
  obtain rfl : status = .done r := hdone
  cases action <;> cases h

/-- The loop of a poll keeps the books, with what it has collected and, in case it raises, without
it. -/
lemma books_pollLoop {B : Backend α} {now : PyFloat α} {es : List (String × NavTask α)}
    (hes : (es.map Prod.fst).Nodup) {active : Dict String (NavTask α)}
    (hactive : ∀ e ∈ es, active.get? e.1 = some e.2) {out : List PollResult}
    (hlost : ({ c with active := active } : Nav2BridgeCore α).Books history)
    (hout : ({ c with active := active } : Nav2BridgeCore α).Books
      (history ++ out.map .result)) :
    ({ c with active := (pollLoop B now es active out).1 } : Nav2BridgeCore α).Books
      (history ++ ((pollLoop B now es active out).2.toOption.getD []).map .result) := by
  induction es generalizing active out with
  | nil => exact hout
  | cons e es ih =>
    obtain ⟨robot, task⟩ := e
    obtain ⟨hrobot, hes⟩ := List.nodup_cons.mp hes
    have hget : active.get? robot = some task := hactive _ List.mem_cons_self
    unfold pollLoop
    cases hdone : askCompleted B now robot task with
    | error e =>
      exact hlost.nothing
    | ok result? =>
      cases result? with
      | none =>
        exact ih hes (fun e he => hactive e (List.mem_cons_of_mem _ he)) hlost hout
      | some result =>
        have hrest := get?_set_of_notMem hrobot (fun e he => hactive e (List.mem_cons_of_mem _ he))
          { task with navStatus := .done result }
        refine ih hes hrest (hlost.finish hget result) ?_
        rw [List.map_append, ← List.append_assoc]
        exact (hout.finish hget result).report { task with navStatus := .done result }
          (Dict.get?_set_self _ _ _) rfl
          (hout.unreported robot task hget (isOpen_of_askCompleted hdone))

lemma Books.poll (hb : c.Books history) (B : Backend α) (now : PyFloat α) :
    (c.pollSection B now).1.Books
      (history ++ ((c.pollSection B now).2.toOption.getD []).map .result) := by
  refine books_pollLoop c.active.nodup (fun e he => (c.active.mem_entries_iff).mp he) hb ?_
  rw [List.map_nil, List.append_nil]
  exact hb

variable [Field α] [IsStrictOrderedRing α] {F : FloatFormat α}

/-- **Specification of the section of a `navigate`.**  A robot that is busy is refused, and a call
of the backend that fails leaves everything as it was. -/
lemma commitRequest_navigate (c : Nav2BridgeCore α) (B : Backend α) (now : PyFloat α)
    (robot : String) (poses : List (Pose α)) (destination : Option String) :
    ((c.isBusy robot = true ∨ B.goTo robot poses = false) ∧
        ∃ e, c.commitRequest F B now (.navigate robot poses destination) = (c, .error e)) ∨
      c.isBusy robot = false ∧ B.goTo robot poses = true ∧
        c.commitRequest F B now (.navigate robot poses destination) =
          ({ c with
              navSeq := c.navSeq + 1
              active := c.active.set robot
                ⟨"nav_" ++ format03d (c.navSeq + 1), .navigating, .navigate destination⟩ },
            .ok (.accepted robot ("nav_" ++ format03d (c.navSeq + 1)))) := by
  rcases requireIdle_cases c robot with ⟨hbusy, hidle⟩ | ⟨hbusy, e, hidle⟩
  · cases hgo : B.goTo robot poses with
    | false =>
      refine .inl ⟨.inr rfl, .backend, ?_⟩
      simp only [commitRequest, hidle, hgo]
      rfl
    | true =>
      refine .inr ⟨hbusy, rfl, ?_⟩
      simp only [commitRequest, hidle, hgo]
      rfl
  · refine .inl ⟨.inl hbusy, .refused e, ?_⟩
    simp only [commitRequest, hidle]

lemma Books.commit (hb : c.Books history) (B : Backend α) (now : PyFloat α)
    (checked : CheckedRequest α) :
    (c.commitRequest F B now checked).1.Books
      (history ++ (c.commitRequest F B now checked).2.toOption.toList) := by
  cases checked with
  | navigate robot poses destination =>
    rcases commitRequest_navigate (F := F) c B now robot poses destination with ⟨-, e, h⟩ | ⟨-, -, h⟩
    · rw [h]
      exact hb.nothing
    · rw [h]
      exact hb.accept
        ⟨"nav_" ++ format03d (c.navSeq + 1), .navigating, .navigate destination⟩ rfl
        (Nat.le_succ _) le_rfl (.inl ⟨c.navSeq + 1, le_rfl, rfl⟩) c.not_minted_nav
  | wait robot duration =>
    exact hb.accept
      ⟨"wait_" ++ format03d (c.waitSeq + 1), .waiting, .wait duration (F.add now duration)⟩ rfl
      le_rfl (Nat.le_succ _) (.inr ⟨c.waitSeq + 1, le_rfl, rfl⟩) c.not_minted_wait
  | stop robot => exact hb.stop robot

end Sections

end Nav2BridgeCore

/-! ## Runs -/

namespace Bridge

variable {α : Type} [Field α] [LinearOrder α] [IsStrictOrderedRing α] {F : FloatFormat α}

lemma history_concat (s : Bridge α) (es : List (BridgeEvent α)) (e : BridgeEvent α) :
    history F s (es ++ [e]) = history F s es ++ (step F ((machine F).run s es) e).2 := by
  unfold history
  rw [Machine.outputs_append, List.flatten_append]
  exact congrArg _ (List.append_nil _)

/-- A request that arrives changes nothing in the core and puts nothing out. -/
lemma step_arrive (s : Bridge α) (request : BridgeRequest α) (B : Backend α) :
    (step F s (.arrive request B)).1.core = s.core ∧ (step F s (.arrive request B)).2 = [] := by
  simp only [step]
  split <;> exact ⟨rfl, rfl⟩

/-- Every event keeps the books. -/
lemma books_step {s : Bridge α} {past : List Notice} (hb : s.core.Books past)
    (e : BridgeEvent α) : (step F s e).1.core.Books (past ++ (step F s e).2) := by
  cases e with
  | arrive request B =>
    obtain ⟨hcore, hnothing⟩ := step_arrive (F := F) s request B
    rw [hcore, hnothing]
    exact hb.nothing
  | locked B now =>
    unfold step
    cases s.inFlight with
    | none => exact hb.nothing
    | some checked => exact hb.commit B now checked
  | poll B now => exact hb.poll B now

lemma books_run (robots : List String) (locations : Dict String (Pose α))
    (es : List (BridgeEvent α)) :
    ((machine F).run (init robots locations) es).core.Books
      (history F (init robots locations) es) := by
  refine Machine.run_history (M := machine F)
    (I := fun past s => s.core.Books (history F (init robots locations) past))
    (Nav2BridgeCore.books_init robots locations) ?_ es
  intro past e hb
  rw [history_concat]
  exact books_step hb e

/-- **Specification of the goals.**  In every interleaving of requests and polls, whatever the
backend answers: a task has at most one result; an accepted id is the record of its robot, or was
reported, or was the answer of a stop, or has been superseded; a robot is given a goal only when it
is not busy; and a goal that the backend does not take changes nothing. -/
theorem goal_accounting (robots : List String) (locations : Dict String (Pose α))
    (es : List (BridgeEvent α)) :
    (∀ taskId, (history F (init robots locations) es).countP (Notice.reports taskId) ≤ 1) ∧
      (∀ before robot taskId later,
        history F (init robots locations) es = before ++ .accepted robot taskId :: later →
          ((machine F).run (init robots locations) es).core.Accounted robot taskId later) ∧
      ∀ (B : Backend α) (now : PyFloat α) (robot : String) (poses : List (Pose α))
        (destination : Option String) (c : Nav2BridgeCore α)
        (answer : Except BridgeFailure Notice),
        ((machine F).run (init robots locations) es).core.commitRequest F B now
            (.navigate robot poses destination) = (c, answer) →
          ((∃ notice, answer = .ok notice) →
            ((machine F).run (init robots locations) es).core.isBusy robot = false) ∧
          (B.goTo robot poses = false →
            c = ((machine F).run (init robots locations) es).core ∧ ∃ e, answer = .error e) := by
  have hb := books_run (F := F) robots locations es
  refine ⟨hb.once, hb.accounted, ?_⟩
  intro B now robot poses destination c answer h
  rcases Nav2BridgeCore.commitRequest_navigate (F := F)
    ((machine F).run (init robots locations) es).core B now robot poses destination with
    ⟨-, e, herror⟩ | ⟨hidle, hgo, -⟩
  · obtain ⟨rfl, rfl⟩ := Prod.mk.inj (h.symm.trans herror)
    refine ⟨?_, fun _ => ⟨rfl, e, rfl⟩⟩
    rintro ⟨notice, hok⟩
    cases hok
  · refine ⟨fun _ => hidle, fun hfails => ?_⟩
    rw [hgo] at hfails
    cases hfails

/-! ### A poll between a cancel and its lock -/

/-- A backend whose goals have all been cancelled. -/
def cancelledBackend : Backend ℚ where
  ready _ := some true
  goTo _ _ := true
  cancel _ := true
  isComplete _ := some true
  result _ := some .failed

/-- A wait cancels the goal of a navigate; a poll reports it before the wait takes the lock. -/
def interruptedRun : List (BridgeEvent ℚ) :=
  [.arrive (.navigate "bot1" (some "dock") none none) cancelledBackend,
    .locked cancelledBackend (.fin 0), .arrive (.wait "bot1" (.fin 5)) cancelledBackend,
    .poll cancelledBackend (.fin 1), .locked cancelledBackend (.fin 1)]

/-- The one place of the run. -/
def dockOnly : Dict String (Pose ℚ) := ⟨[("dock", (.fin 0, .fin 0))], List.nodup_singleton _⟩

theorem accounted_interruptedRun :
    ((machine (.exact ℚ)).run (init ["bot1"] dockOnly) interruptedRun).core.Accounted
      "bot1" "nav_001" [.result ⟨"bot1", "nav_001", .failed⟩, .accepted "bot1" "wait_001"] :=
  (goal_accounting ["bot1"] dockOnly interruptedRun).2.1 [] "bot1" "nav_001" _ rfl

end Bridge

end MiniatureWarehouse
