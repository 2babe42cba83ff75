import MiniatureWarehouse.Orchestrator.Kpi

/-!
# Accounting under cancellation

What a log says about a task is a matter of order: a cancellation is about the last dispatch of its
id before it, and a completion is about the last dispatch of its id not after it.  The code asks a
set of ids instead, and takes the earliest time an id was dispatched.

The two agree on the logs of one server, where an id is dispatched once.  `kpi_accounting_iff`
states for any log when they agree: every dispatch of an id that was ever cancelled is cancelled
itself, and no completion comes after two dispatches of its id.  The sums of the report are right
in any case.
-/

namespace MiniatureWarehouse

namespace Kpi

open OperatorFeedback (Hashed hashed?)

/-! ## What the log says -/

section Log

variable {α : Type} [Field α] [LinearOrder α]

/-- Two rows name the same task. -/
def SameTask (a b : AuditEntry α) : Prop :=
  ∃ id, hashed? a.taskId = some id ∧ hashed? b.taskId = some id

/-- The dispatch of a row is cancelled later in the log: the first executed cancellation of its id
comes before the id is dispatched again. -/
def CancelledLater (row : AuditEntry α) (post : List (AuditEntry α)) : Prop :=
  ∃ between cancel rest, post = between ++ cancel :: rest ∧ cancel.isExecutedCancel = true ∧
    SameTask row cancel ∧ ∀ other ∈ between, other.isDispatch = true → ¬ SameTask row other

/-- `compute_kpis` leaves a row out. -/
def Excluded (entries : List (AuditEntry α)) (row : AuditEntry α) : Prop :=
  ∃ cancelled, cancelledTaskIds entries = .ok cancelled ∧ isCancelled cancelled row = .ok true

/-- A row by which a task was dispatched at some time. -/
structure DispatchedAt (row : AuditEntry α) (id : Hashed α) (stamp : PyFloat α) : Prop where
  executed : row.isExecuted = true
  dispatch : row.isDispatch = true
  named : WebBridge.truthy row.taskId = true
  task : hashed? row.taskId = some id
  time : row.timestamp = some stamp

/-- A record pairs a completion with the dispatch of its task: the last one of its id not after
the completion, which nothing cancels. -/
structure PairsRight (entries : List (AuditEntry α))
    (completions : Dict String (Option (PyFloat α))) (record : CompletionRecord α) : Prop where
  completion : completions.get? record.taskId = some (some record.completionTs)
  dispatched : ∃ pre row post, entries = pre ++ row :: post ∧
    DispatchedAt row (.text record.taskId) record.dispatchTs ∧ row.robot = record.robot ∧
    ¬ CancelledLater row post
  precedes : record.dispatchTs ≤ record.completionTs
  last : ∀ row ∈ entries, ∀ stamp, DispatchedAt row (.text record.taskId) stamp →
    stamp ≤ record.completionTs → ¬ record.dispatchTs < stamp

/-- What a report owes to its log. -/
structure Accounts {σ : Type} (entries : List (AuditEntry α))
    (completions : Dict String (Option (PyFloat α))) (report : KpiReport α σ) : Prop where
  excluded : ∀ pre row post, entries = pre ++ row :: post → row.isDispatch = true →
    (Excluded entries row ↔ CancelledLater row post)
  counted : ∃ cancelled, cancelledTaskIds entries = .ok cancelled ∧
    report.excludedCancelled = entries.countP (passes (isCancelled cancelled))
  total : report.totalEntries = entries.length ∧
    report.includedEntries + report.excludedCancelled = report.totalEntries
  tools : (report.byTool.entries.map fun tool => tool.2.total).sum = report.includedEntries
  completions : ∀ records stats, report.completion = some (records, stats) →
    ∀ record ∈ records, PairsRight entries completions record

/-- Every dispatch of an id that some row cancels is cancelled itself. -/
def CancelsFollow (entries : List (AuditEntry α)) : Prop :=
  ∀ pre row post, entries = pre ++ row :: post → row.isDispatch = true →
    (∃ cancel ∈ entries, cancel.isExecutedCancel = true ∧ SameTask row cancel) →
    CancelledLater row post

/-- The times at which a task was dispatched, in the order of the log. -/
def dispatchTimes (entries : List (AuditEntry α)) (id : Hashed α) : List (PyFloat α) :=
  entries.filterMap fun row =>
    if row.isExecuted && row.isDispatch && WebBridge.truthy row.taskId &&
      hashed? row.taskId == some id
    then row.timestamp else none

/-- Every completion of a task that was dispatched and never cancelled has a time that is a number,
as has the first dispatch, and comes after dispatches of one time only. -/
def DispatchedOnce (entries : List (AuditEntry α))
    (completions : Dict String (Option (PyFloat α))) : Prop :=
  ∀ id completionTs, completions.get? id = some (some completionTs) →
    (∀ cancel ∈ entries, cancel.isExecutedCancel = true →
      hashed? cancel.taskId ≠ some (.text id)) →
    ∀ first rest, dispatchTimes entries (.text id) = first :: rest →
      completionTs ≠ .nan ∧ first ≠ .nan ∧
        ∀ a ∈ first :: rest, ∀ b ∈ first :: rest, a ≤ completionTs → b ≤ completionTs → ¬ a < b

end Log

/-! ## The cancelled ids -/

section Cancelled

variable {α : Type} [Field α] [LinearOrder α]

omit [LinearOrder α] in
lemma hash_eq_ok {v : PyVal α} {id : Hashed α} : hash v = .ok id ↔ hashed? v = some id := by
  unfold hash
  cases hashed? v <;> simp

/-- The cancelled ids are those of the executed cancellations. -/
lemma mem_cancelledTaskIds {entries : List (AuditEntry α)} {cancelled : Finset (Hashed α)}
    (h : cancelledTaskIds entries = .ok cancelled) (id : Hashed α) :
    id ∈ cancelled ↔
      ∃ cancel ∈ entries, cancel.isExecutedCancel = true ∧ hashed? cancel.taskId = some id := by
  let new (entry : AuditEntry α) : Set (Hashed α) :=
    {id | entry.isExecutedCancel = true ∧ hashed? entry.taskId = some id}
  have hstep : ∀ (out : Finset (Hashed α)) entry out', addCancelled out entry = .ok out' →
      (out' : Set (Hashed α)) = (out : Set (Hashed α)) ∪ new entry := by
    intro out entry out' hentry
    unfold addCancelled at hentry
    split_ifs at hentry with hcancel
    · obtain ⟨own, hown, rfl⟩ := exceptMap_eq_ok.mp hentry
      have hnew : new entry = {own} := by
        ext k
        simp only [new, Set.mem_ofPred_eq, hcancel, hash_eq_ok.mp hown, Option.some.injEq,
          true_and]
        exact eq_comm
      rw [hnew, Set.union_singleton]
      exact Finset.coe_insert own out
    · obtain rfl := Except.ok.inj hentry
      simp [new, hcancel]
  have hcoe := coe_of_foldlM (fun out => out) new hstep h
  rw [← Finset.mem_coe, hcoe]
  simp [new]

lemma taskId_of_isExecutedCancel {cancel : AuditEntry α} (h : cancel.isExecutedCancel = true) :
    WebBridge.truthy cancel.taskId = true := by
  unfold AuditEntry.isExecutedCancel at h
  exact (Bool.and_eq_true_iff.mp h).2

omit [LinearOrder α] in
/-- Only the missing id is the same member of a set as the missing id. -/
lemma hashed?_eq_none_iff {v : PyVal α} : hashed? v = some .none ↔ isSome v = false := by
  cases v <;> simp [hashed?, isSome]

/-- A dispatch is left out when some row of the log cancels its id. -/
lemma excluded_iff {entries : List (AuditEntry α)} {cancelled : Finset (Hashed α)}
    (h : cancelledTaskIds entries = .ok cancelled) {row : AuditEntry α}
    (hrow : row.isDispatch = true) :
    Excluded entries row ↔
      ∃ cancel ∈ entries, cancel.isExecutedCancel = true ∧ SameTask row cancel := by
  have hone : Excluded entries row ↔ isCancelled cancelled row = .ok true :=
    ⟨fun ⟨other, hother, hskip⟩ => Except.ok.inj (hother.symm.trans h) ▸ hskip,
      fun hskip => ⟨cancelled, h, hskip⟩⟩
  have htool : row.tool ≠ some cancelTool := by
    intro htool
    unfold AuditEntry.isDispatch at hrow
    rw [htool] at hrow
    exact absurd hrow (by decide)
  rw [hone]
  unfold isCancelled
  rw [if_neg htool, hrow, Bool.true_and]
  constructor
  · intro hskip
    split_ifs at hskip
    · obtain ⟨id, hid, hin⟩ := exceptMap_eq_ok.mp hskip
      obtain ⟨cancel, hmem, hcancel, hsame⟩ :=
        (mem_cancelledTaskIds h id).mp (of_decide_eq_true hin)
      exact ⟨cancel, hmem, hcancel, id, hash_eq_ok.mp hid, hsame⟩
    · exact absurd (Except.ok.inj hskip) Bool.false_ne_true
  · rintro ⟨cancel, hmem, hcancel, id, hid, hsame⟩
    have hsome : isSome row.taskId = true := by
      by_contra hnone
      have hnull := hashed?_eq_none_iff.mpr (Bool.not_eq_true _ ▸ hnone)
      have hcancelnull : hashed? cancel.taskId = some .none := hsame.trans (hid.symm.trans hnull)
      have hmissing := hashed?_eq_none_iff.mp hcancelnull
      have htruthy := taskId_of_isExecutedCancel hcancel
      cases hcase : cancel.taskId <;> simp_all [isSome, WebBridge.truthy]
    have hin : id ∈ cancelled := (mem_cancelledTaskIds h id).mpr ⟨cancel, hmem, hcancel, hsame⟩
    rw [if_pos hsome, hash_eq_ok.mpr hid]
    simp [Except.map, hin]

/-- A cancellation that comes later is a row of the log. -/
lemma CancelledLater.exists_cancel (pre : List (AuditEntry α)) {row : AuditEntry α}
    {post : List (AuditEntry α)} (h : CancelledLater row post) :
    ∃ cancel ∈ pre ++ row :: post, cancel.isExecutedCancel = true ∧ SameTask row cancel := by
  obtain ⟨between, cancel, rest, rfl, hcancel, hsame, -⟩ := h
  exact ⟨cancel, by simp, hcancel, hsame⟩

/-- The exclusions are right exactly when the cancellations follow the dispatches they are for. -/
lemma exclusions_right_iff {entries : List (AuditEntry α)} {cancelled : Finset (Hashed α)}
    (h : cancelledTaskIds entries = .ok cancelled) :
    (∀ pre row post, entries = pre ++ row :: post → row.isDispatch = true →
      (Excluded entries row ↔ CancelledLater row post)) ↔ CancelsFollow entries := by
  constructor
  · intro hright pre row post hsplit hrow hcancel
    exact (hright pre row post hsplit hrow).mp ((excluded_iff h hrow).mpr hcancel)
  · intro hfollow pre row post hsplit hrow
    rw [excluded_iff h hrow]
    refine ⟨hfollow pre row post hsplit hrow, fun hlater => ?_⟩
    rw [hsplit]
    exact hlater.exists_cancel pre

end Cancelled

/-! ## The sums -/

/-- The sum over a dictionary, after an assignment: the old value leaves it, the new one enters. -/
lemma sum_assign {κ ν : Type} [DecidableEq κ] (f : ν → ℕ) (es : List (κ × ν)) (k : κ) (v : ν) :
    ((Dict.assign es k v).map fun e => f e.2).sum + ((Dict.find es k).map f).getD 0 =
      (es.map fun e => f e.2).sum + f v := by
  induction es with
  | nil => simp [Dict.assign, Dict.find]
  | cons e es ih =>
    obtain ⟨k', w⟩ := e
    by_cases hk : k' = k
    · simp only [Dict.assign, Dict.find, if_pos hk, List.map_cons, List.sum_cons, Option.map_some,
        Option.getD_some]
      omega
    · simp only [Dict.assign, Dict.find, if_neg hk, List.map_cons, List.sum_cons]
      omega

/-- A row adds one to the totals of its table. -/
lemma sum_tallyFor (table : Dict String ResultTally) (key : String) (result : Option String) :
    ((tallyFor table key result).entries.map fun row => row.2.total).sum =
      (table.entries.map fun row => row.2.total).sum + 1 := by
  have hsum := sum_assign ResultTally.total table.entries key
    ((table.getD key .zero).add result)
  have hold : ((Dict.find table.entries key).map ResultTally.total).getD 0 =
      (table.getD key .zero).total := by
    unfold Dict.getD Dict.get?
    cases Dict.find table.entries key <;> rfl
  rw [hold, ResultTally.total_add] at hsum
  unfold tallyFor Dict.set
  dsimp only
  omega

section Sums

variable {α : Type} [Field α] [LinearOrder α]

/-- What the loop keeps: every row is counted on one side, the left out ones by the rule, and the
tallies of the tools are about the others. -/
structure Counted (cancelled : Finset (Hashed α)) (pre : List (AuditEntry α)) (s : Counts α) :
    Prop where
  total : s.included + s.excluded = pre.length
  excluded : s.excluded = pre.countP (passes (isCancelled cancelled))
  tools : (s.byTool.entries.map fun tool => tool.2.total).sum = s.included

lemma counted_start (cancelled : Finset (Hashed α)) : Counted cancelled [] Counts.start :=
  ⟨rfl, rfl, rfl⟩

lemma counted_countRow {cancelled : Finset (Hashed α)} {pre : List (AuditEntry α)}
    {row : AuditEntry α} {s s' : Counts α} (hs : Counted cancelled pre s)
    (h : countRow true cancelled s row = .ok s') : Counted cancelled (pre ++ [row]) s' := by
  obtain ⟨skip, hskip, h⟩ := exceptBind_eq_ok.mp h
  have hpasses : passes (isCancelled cancelled) row = skip := by
    simp [passes, hskip, Except.toOption]
  have htotal := hs.total
  have hexcluded := hs.excluded
  have htools := hs.tools
  have hlength : (pre ++ [row]).length = pre.length + 1 := List.length_append
  have hcount : (pre ++ [row]).countP (passes (isCancelled cancelled)) =
      pre.countP (passes (isCancelled cancelled)) + if skip then 1 else 0 := by
    rw [List.countP_append, List.countP_singleton, hpasses]
  cases skip with
  | true =>
    obtain rfl := Except.ok.inj h
    constructor
    · rw [hlength, ← htotal]
      exact (Nat.add_assoc _ _ _).symm
    · rw [hcount, ← hexcluded]
      rfl
    · exact htools
  | false =>
    obtain ⟨reasons, -, rfl⟩ := exceptMap_eq_ok.mp h
    constructor
    · dsimp only
      omega
    · rw [hcount, ← hexcluded]
      rfl
    · dsimp only
      rw [sum_tallyFor, htools]

end Sums

/-! ## The completions -/

section Pairs

variable {α : Type} [Field α] [LinearOrder α]

/-- The start of a task is its earliest dispatch: one of them, before which there is none, and not
a number only when the first one is not. -/
structure Earliest (entries : List (AuditEntry α)) (id : Hashed α)
    (start : PyFloat α × Option String) : Prop where
  dispatched : ∃ row ∈ entries, DispatchedAt row id start.1 ∧ row.robot = start.2
  least : ∀ stamp ∈ dispatchTimes entries id, ¬ stamp < start.1
  nan : start.1 = .nan ↔ (dispatchTimes entries id).head? = some .nan

lemma mem_dispatchTimes {entries : List (AuditEntry α)} {id : Hashed α} {stamp : PyFloat α} :
    stamp ∈ dispatchTimes entries id ↔ ∃ row ∈ entries, DispatchedAt row id stamp := by
  unfold dispatchTimes
  rw [List.mem_filterMap]
  constructor
  · rintro ⟨row, hmem, hrow⟩
    split_ifs at hrow with hcond
    simp only [Bool.and_eq_true, beq_iff_eq] at hcond
    obtain ⟨⟨⟨hexecuted, hdispatch⟩, hnamed⟩, htask⟩ := hcond
    exact ⟨row, hmem, hexecuted, hdispatch, hnamed, htask, hrow⟩
  · rintro ⟨row, hmem, hrow⟩
    refine ⟨row, hmem, ?_⟩
    simp [hrow.executed, hrow.dispatch, hrow.named, hrow.task, hrow.time]

/-- A dispatch adds its time to those of its own task. -/
lemma dispatchTimes_concat (entries : List (AuditEntry α)) (row : AuditEntry α) (id : Hashed α) :
    dispatchTimes (entries ++ [row]) id =
      dispatchTimes entries id ++ dispatchTimes [row] id := List.filterMap_append

lemma dispatchTimes_of_dispatchedAt {row : AuditEntry α} {id : Hashed α} {stamp : PyFloat α}
    (h : DispatchedAt row id stamp) : dispatchTimes [row] id = [stamp] := by
  simp [dispatchTimes, h.executed, h.dispatch, h.named, h.task, h.time]

lemma dispatchTimes_of_not {row : AuditEntry α} {id : Hashed α}
    (h : ∀ stamp, ¬ DispatchedAt row id stamp) : dispatchTimes [row] id = [] := by
  refine List.eq_nil_iff_forall_not_mem.mpr fun stamp hstamp => ?_
  obtain ⟨other, hother, hat⟩ := mem_dispatchTimes.mp hstamp
  exact h stamp (List.mem_singleton.mp hother ▸ hat)

/-- What a dictionary of starts says about one task. -/
def StartOf (entries : List (AuditEntry α)) (id : Hashed α)
    (start : Option (PyFloat α × Option String)) : Prop :=
  (start = none ∧ dispatchTimes entries id = []) ∨
    ∃ pair, start = some pair ∧ Earliest entries id pair

/-- A row that does not dispatch the task leaves its start. -/
lemma startOf_of_not {pre : List (AuditEntry α)} {row : AuditEntry α} {id : Hashed α}
    {start : Option (PyFloat α × Option String)} (hs : StartOf pre id start)
    (h : ∀ stamp, ¬ DispatchedAt row id stamp) : StartOf (pre ++ [row]) id start := by
  have htimes : dispatchTimes (pre ++ [row]) id = dispatchTimes pre id := by
    rw [dispatchTimes_concat, dispatchTimes_of_not h, List.append_nil]
  obtain ⟨hnone, hnil⟩ | ⟨pair, hsome, hearliest⟩ := hs
  · exact .inl ⟨hnone, htimes.trans hnil⟩
  · refine .inr ⟨pair, hsome, ?_, ?_, ?_⟩
    · obtain ⟨other, hother, hat⟩ := hearliest.dispatched
      exact ⟨other, List.mem_append_left _ hother, hat⟩
    · rw [htimes]
      exact hearliest.least
    · rw [htimes]
      exact hearliest.nan

/-- The earlier of a start and a new dispatch, the start when they do not compare. -/
def earlier (start : Option (PyFloat α × Option String)) (new : PyFloat α × Option String) :
    PyFloat α × Option String :=
  match start with
  | none => new
  | some old => if new.1 < old.1 then new else old

/-- A row that dispatches the task replaces a start it is before. -/
lemma startOf_of_dispatchedAt {pre : List (AuditEntry α)} {row : AuditEntry α} {id : Hashed α}
    {stamp : PyFloat α} {start : Option (PyFloat α × Option String)} (hs : StartOf pre id start)
    (h : DispatchedAt row id stamp) :
    StartOf (pre ++ [row]) id (some (earlier start (stamp, row.robot))) := by
  have htimes : dispatchTimes (pre ++ [row]) id = dispatchTimes pre id ++ [stamp] := by
    rw [dispatchTimes_concat, dispatchTimes_of_dispatchedAt h]
  have hself : ¬ stamp < stamp := fun hlt => PyFloat.not_lt_of_le (PyFloat.le_of_lt hlt) hlt
  have hrow : ∃ other ∈ pre ++ [row], DispatchedAt other id stamp ∧ other.robot = row.robot :=
    ⟨row, List.mem_append_right _ (List.mem_singleton_self row), h, rfl⟩
  obtain ⟨rfl, hnil⟩ | ⟨old, rfl, hearliest⟩ := hs
  · refine .inr ⟨(stamp, row.robot), rfl, hrow, ?_, ?_⟩
    · rw [htimes, hnil]
      simpa using hself
    · rw [htimes, hnil]
      simp
  · -- The times are not empty, so the first one stays the first.
    obtain ⟨other, hother, hat, hrobot⟩ := hearliest.dispatched
    have hmem : old.1 ∈ dispatchTimes pre id := mem_dispatchTimes.mpr ⟨other, hother, hat⟩
    have hhead : (dispatchTimes (pre ++ [row]) id).head? = (dispatchTimes pre id).head? := by
      rw [htimes]
      obtain ⟨first, rest, hcons⟩ := List.exists_cons_of_ne_nil (List.ne_nil_of_mem hmem)
      rw [hcons]
      rfl
    by_cases hlt : stamp < old.1
    · refine .inr ⟨(stamp, row.robot), by simp [earlier, hlt], hrow, ?_, ?_⟩
      · intro t ht hbefore
        rw [htimes, List.mem_append, List.mem_singleton] at ht
        obtain ht | rfl := ht
        · exact hearliest.least t ht (PyFloat.lt_of_lt_of_le hbefore (PyFloat.le_of_lt hlt))
        · exact hself hbefore
      · have hne := PyFloat.ne_nan_of_le (PyFloat.le_of_lt hlt)
        rw [hhead, ← hearliest.nan]
        exact iff_of_false hne.1 hne.2
    · refine .inr ⟨old, by simp [earlier, hlt], ?_, ?_, ?_⟩
      · exact ⟨other, List.mem_append_left _ hother, hat, hrobot⟩
      · intro t ht
        rw [htimes, List.mem_append, List.mem_singleton] at ht
        obtain ht | rfl := ht
        · exact hearliest.least t ht
        · exact hlt
      · rw [hhead]
        exact hearliest.nan

/-- The starts hold the earliest dispatch of every task that was dispatched. -/
lemma starts_earliest {entries : List (AuditEntry α)}
    {starts : Dict (Hashed α) (PyFloat α × Option String)}
    (h : entries.foldlM addStart .empty = .ok starts) (id : Hashed α) :
    StartOf entries id (starts.get? id) := by
  have hkept : ∀ pre row (d d' : Dict (Hashed α) (PyFloat α × Option String)),
      StartOf pre id (d.get? id) → addStart d row = .ok d' →
      StartOf (pre ++ [row]) id (d'.get? id) := by
    intro pre row d d' hd hrow
    unfold addStart at hrow
    split_ifs at hrow with hcond
    · simp only [Bool.and_eq_true] at hcond
      cases htime : row.timestamp with
      | none =>
        rw [htime] at hrow
        obtain rfl := Except.ok.inj hrow
        exact startOf_of_not hd fun stamp hat => Option.some_ne_none _ (hat.time.symm.trans htime)
      | some stamp =>
        rw [htime] at hrow
        obtain ⟨own, hown, hset⟩ := exceptMap_eq_ok.mp hrow
        by_cases hid : own = id
        · subst hid
          have hat : DispatchedAt row own stamp :=
            ⟨hcond.1.1, hcond.1.2, hcond.2, hash_eq_ok.mp hown, htime⟩
          have hget : d'.get? own = some (earlier (d.get? own) (stamp, row.robot)) := by
            rw [← hset]
            cases hold : d.get? own with
            | none => exact d.get?_set_self own _
            | some old =>
              by_cases hlt : stamp < old.1
              · simp [earlier, hlt]
              · simp [earlier, hlt, hold]
          rw [hget]
          exact startOf_of_dispatchedAt hd hat
        · have hsame : d'.get? id = d.get? id := by
            rw [← hset]
            cases hget : d.get? own with
            | none => exact d.get?_set_of_ne _ (Ne.symm hid)
            | some old =>
              by_cases hlt : stamp < old.1
              · simpa [hlt] using d.get?_set_of_ne (stamp, row.robot) (Ne.symm hid)
              · simp [hlt]
          rw [hsame]
          refine startOf_of_not hd fun other hat => hid ?_
          exact Option.some.inj ((hash_eq_ok.mp hown).symm.trans hat.task)
    · obtain rfl := Except.ok.inj hrow
      refine startOf_of_not hd fun stamp hat => hcond ?_
      simp [hat.executed, hat.dispatch, hat.named]
  exact foldlM_history hkept [] (.inl ⟨rfl, rfl⟩) h

omit [Field α] in
/-- A completion is paired rightly when it comes after one dispatch only, at times that are
numbers. -/
lemma last_iff {completionTs start : PyFloat α} {first : PyFloat α} {rest : List (PyFloat α)}
    (hmem : start ∈ first :: rest) (hleast : ∀ stamp ∈ first :: rest, ¬ stamp < start)
    (hnan : start = .nan ↔ first = .nan) :
    (¬ completionTs < start → start ≤ completionTs ∧
        ∀ stamp ∈ first :: rest, stamp ≤ completionTs → ¬ start < stamp) ↔
      completionTs ≠ .nan ∧ first ≠ .nan ∧
        ∀ a ∈ first :: rest, ∀ b ∈ first :: rest,
          a ≤ completionTs → b ≤ completionTs → ¬ a < b := by
  constructor
  · intro hpaired
    by_cases hbefore : completionTs < start
    · have hne := PyFloat.ne_nan_of_le (PyFloat.le_of_lt hbefore)
      refine ⟨hne.1, fun hfirst => hne.2 (hnan.mpr hfirst), fun a ha _ _ hle _ _ => ?_⟩
      have hlt : ¬ a < start := hleast a ha
      have hstart : start ≤ a :=
        PyFloat.le_of_not_lt hne.2 (PyFloat.ne_nan_of_le hle).1 hlt
      exact PyFloat.not_lt_of_le (PyFloat.le_trans hstart hle) hbefore
    · obtain ⟨hle, hlast⟩ := hpaired hbefore
      have hne := PyFloat.ne_nan_of_le hle
      refine ⟨hne.2, fun hfirst => hne.1 (hnan.mpr hfirst), fun a ha b hb hac hbc hlt => ?_⟩
      have hstart : start ≤ a :=
        PyFloat.le_of_not_lt hne.1 (PyFloat.ne_nan_of_le hac).1 (hleast a ha)
      have hbefore : start < b := by
        cases hsb : decide (start < b) with
        | true => exact of_decide_eq_true hsb
        | false =>
          have hbs : b ≤ start := PyFloat.le_of_not_lt (PyFloat.ne_nan_of_le hbc).1 hne.1
            (of_decide_eq_false hsb)
          exact absurd hlt (PyFloat.not_lt_of_le (PyFloat.le_trans hbs hstart))
      exact hlast b hb hbc hbefore
  · rintro ⟨hcompletion, hfirst, hpairs⟩ hbefore
    have hstart : start ≠ .nan := fun hcon => hfirst (hnan.mp hcon)
    have hle : start ≤ completionTs := PyFloat.le_of_not_lt hstart hcompletion hbefore
    exact ⟨hle, fun stamp hstamp hsc => hpairs start hmem stamp hstamp hle hsc⟩

omit [Field α] in
lemma pairRecord_eq_some {cancelled : Finset (Hashed α)}
    {starts : Dict (Hashed α) (PyFloat α × Option String)}
    {completion : String × Option (PyFloat α)} {record : CompletionRecord α} :
    pairRecord cancelled starts completion = some record ↔
      .text completion.1 ∉ cancelled ∧ ∃ start completionTs,
        starts.get? (.text completion.1) = some start ∧ completion.2 = some completionTs ∧
        ¬ completionTs < start.1 ∧ record = ⟨completion.1, start.2, start.1, completionTs⟩ := by
  unfold pairRecord
  by_cases hcancelled : .text completion.1 ∈ cancelled
  · simp [hcancelled]
  · rw [if_neg hcancelled]
    cases hstart : starts.get? (.text completion.1) with
    | none => simp
    | some start =>
      cases hts : completion.2 with
      | none => simp
      | some completionTs =>
        by_cases hlt : completionTs < start.1
        · simp [hlt]
        · simp [hlt, hcancelled, eq_comm]

/-- The start of a task that was dispatched at all. -/
lemma earliest_of_dispatchTimes {entries : List (AuditEntry α)} {id : Hashed α}
    {start : Option (PyFloat α × Option String)} (h : StartOf entries id start)
    {first : PyFloat α} {rest : List (PyFloat α)}
    (htimes : dispatchTimes entries id = first :: rest) :
    ∃ pair, start = some pair ∧ Earliest entries id pair := by
  obtain ⟨-, hnil⟩ | hpair := h
  · rw [htimes] at hnil
    exact absurd hnil (List.cons_ne_nil _ _)
  · exact hpair

/-- The three facts about an earliest start, of the times of its task. -/
lemma Earliest.times {entries : List (AuditEntry α)} {id : Hashed α}
    {pair : PyFloat α × Option String} (h : Earliest entries id pair) {first : PyFloat α}
    {rest : List (PyFloat α)} (htimes : dispatchTimes entries id = first :: rest) :
    pair.1 ∈ first :: rest ∧ (∀ stamp ∈ first :: rest, ¬ stamp < pair.1) ∧
      (pair.1 = .nan ↔ first = .nan) := by
  obtain ⟨row, hrow, hat, -⟩ := h.dispatched
  have hnan := h.nan
  rw [htimes, List.head?_cons, Option.some.injEq] at hnan
  rw [← htimes]
  exact ⟨mem_dispatchTimes.mpr ⟨row, hrow, hat⟩, h.least, hnan⟩

/-- The records are right exactly when no completion comes after two dispatches of its id. -/
lemma pairs_right_iff {entries : List (AuditEntry α)} {cancelled : Finset (Hashed α)}
    {starts : Dict (Hashed α) (PyFloat α × Option String)}
    {completions : Dict String (Option (PyFloat α))}
    (hcancelled : cancelledTaskIds entries = .ok cancelled)
    (hstarts : entries.foldlM addStart .empty = .ok starts) :
    (∀ record ∈ completions.entries.filterMap (pairRecord cancelled starts),
        PairsRight entries completions record) ↔ DispatchedOnce entries completions := by
  constructor
  · intro hright id completionTs hget huncancelled first rest htimes
    obtain ⟨pair, hpair, hearliest⟩ :=
      earliest_of_dispatchTimes (starts_earliest hstarts (.text id)) htimes
    obtain ⟨hmem, hleast, hnan⟩ := hearliest.times htimes
    refine (last_iff hmem hleast hnan).mp fun hbefore => ?_
    have hnotin : .text id ∉ cancelled := by
      rw [mem_cancelledTaskIds hcancelled]
      rintro ⟨cancel, hcancel, hexecuted, hnamed⟩
      exact huncancelled cancel hcancel hexecuted hnamed
    have hrecord : pairRecord cancelled starts (id, some completionTs) =
        some ⟨id, pair.2, pair.1, completionTs⟩ :=
      pairRecord_eq_some.mpr ⟨hnotin, pair, completionTs, hpair, rfl, hbefore, rfl⟩
    have hpairs := hright _ (List.mem_filterMap.mpr
      ⟨(id, some completionTs), completions.mem_entries_iff.mpr hget, hrecord⟩)
    refine ⟨hpairs.precedes, fun stamp hstamp hle => ?_⟩
    rw [← htimes] at hstamp
    obtain ⟨row, hrow, hat⟩ := mem_dispatchTimes.mp hstamp
    exact hpairs.last row hrow stamp hat hle
  · intro honce record hrecord
    obtain ⟨⟨id, ts⟩, hentry, hsome⟩ := List.mem_filterMap.mp hrecord
    obtain ⟨hnotin, pair, completionTs, hpair, hts, hbefore, rfl⟩ := pairRecord_eq_some.mp hsome
    dsimp only at hnotin hpair hts
    have hget : completions.get? id = some (some completionTs) := by
      rw [completions.mem_entries_iff.mp hentry, hts]
    have huncancelled : ∀ cancel ∈ entries, cancel.isExecutedCancel = true →
        hashed? cancel.taskId ≠ some (.text id) := fun cancel hcancel hexecuted hnamed =>
      hnotin ((mem_cancelledTaskIds hcancelled _).mpr ⟨cancel, hcancel, hexecuted, hnamed⟩)
    obtain ⟨hnone, -⟩ | ⟨start, hstart, hearliest⟩ := starts_earliest hstarts (.text id)
    · exact absurd (hpair.symm.trans hnone) (Option.some_ne_none _)
    · obtain rfl : pair = start := Option.some.inj (hpair.symm.trans hstart)
      obtain ⟨row, hrow, hat, hrobot⟩ := hearliest.dispatched
      have hmem : pair.1 ∈ dispatchTimes entries (.text id) :=
        mem_dispatchTimes.mpr ⟨row, hrow, hat⟩
      obtain ⟨first, rest, htimes⟩ := List.exists_cons_of_ne_nil (List.ne_nil_of_mem hmem)
      obtain ⟨hin, hleast, hnan⟩ := hearliest.times htimes
      obtain ⟨hprecedes, hlast⟩ := (last_iff hin hleast hnan).mpr
        (honce id completionTs hget huncancelled first rest htimes) hbefore
      obtain ⟨pre, post, hsplit⟩ := List.append_of_mem hrow
      refine ⟨hget, ⟨pre, row, post, hsplit, hat, hrobot, fun hlater => ?_⟩, hprecedes, ?_⟩
      · obtain ⟨cancel, hcancel, hexecuted, k, hk, hsame⟩ := hlater.exists_cancel pre
        rw [← hsplit] at hcancel
        have htext : k = .text id := Option.some.inj (hk.symm.trans hat.task)
        exact huncancelled cancel hcancel hexecuted (htext ▸ hsame)
      · intro other hother stamp hstamp hle
        refine hlast stamp ?_ hle
        rw [← htimes]
        exact mem_dispatchTimes.mpr ⟨other, hother, hstamp⟩

end Pairs

/-! ## The report -/

section Main

variable {α σ : Type} [Field α] [LinearOrder α] [IsStrictOrderedRing α] {F : FloatFormat α}
  {completionStats : List (CompletionRecord α) → Except PyErr σ}
  {jainFairnessIndex : List ℕ → Option (PyFloat α)}

omit [IsStrictOrderedRing α] in
/-- The records of a report are right exactly when no completion comes after two dispatches. -/
lemma completions_right_iff {entries : List (AuditEntry α)}
    {completions : Dict String (Option (PyFloat α))}
    {completion : Option (List (CompletionRecord α) × σ)}
    (h : completionReport completionStats true completions entries = .ok completion) :
    (∀ records stats, completion = some (records, stats) →
        ∀ record ∈ records, PairsRight entries completions record) ↔
      DispatchedOnce entries completions := by
  unfold completionReport at h
  by_cases hempty : completions.entries.isEmpty = true
  · rw [if_pos hempty] at h
    obtain rfl := Except.ok.inj h
    have hnone : ∀ id, completions.get? id = none := by
      intro id
      unfold Dict.get?
      rw [List.isEmpty_iff.mp hempty]
      rfl
    refine iff_of_true (fun _ _ hsome => absurd hsome (by simp)) fun id completionTs hget => ?_
    exact absurd ((hnone id).symm.trans hget) (by simp)
  · rw [if_neg hempty] at h
    obtain ⟨records, hrecords, h⟩ := exceptBind_eq_ok.mp h
    obtain ⟨stats, -, rfl⟩ := exceptMap_eq_ok.mp h
    obtain ⟨cancelled, hcancelled, hrecords⟩ := exceptBind_eq_ok.mp hrecords
    obtain ⟨starts, hstarts, hrecords⟩ := exceptBind_eq_ok.mp hrecords
    obtain rfl := Except.ok.inj hrecords
    rw [← pairs_right_iff hcancelled hstarts]
    constructor
    · intro hright
      exact hright _ stats rfl
    · rintro hright records' stats' hsome
      obtain ⟨rfl, -⟩ := Prod.mk.inj (Option.some.inj hsome)
      exact hright

/-- **Accounting under cancellation**: a report that leaves out the cancelled rows accounts for its
log exactly when the cancellations of an id follow each of its dispatches, and no completion comes
after two of them. -/
theorem kpi_accounting_iff {entries : List (AuditEntry α)}
    {completions : Dict String (Option (PyFloat α))} {report : KpiReport α σ}
    (h : computeKpis F completionStats jainFairnessIndex true completions entries = .ok report) :
    Accounts entries completions report ↔
      CancelsFollow entries ∧ DispatchedOnce entries completions := by
  obtain ⟨cancelled, hcancelled, h⟩ := exceptBind_eq_ok.mp h
  obtain ⟨s, hs, h⟩ := exceptBind_eq_ok.mp h
  obtain ⟨completion, hcompletion, h⟩ := exceptBind_eq_ok.mp h
  obtain ⟨acceptance, -, h⟩ := exceptBind_eq_ok.mp h
  obtain ⟨errorRate, -, h⟩ := exceptBind_eq_ok.mp h
  obtain ⟨interventionRate, -, h⟩ := exceptBind_eq_ok.mp h
  obtain rfl := Except.ok.inj h
  have hkept : ∀ pre row (t t' : Counts α), Counted cancelled pre t →
      countRow true cancelled t row = .ok t' → Counted cancelled (pre ++ [row]) t' :=
    fun _ _ _ _ => counted_countRow
  have hcounted : Counted cancelled entries s :=
    foldlM_history hkept [] (counted_start cancelled) hs
  have hexclusions := exclusions_right_iff hcancelled
  have hcompletions := completions_right_iff hcompletion
  constructor
  · intro haccounts
    exact ⟨hexclusions.mp haccounts.excluded, hcompletions.mp haccounts.completions⟩
  · rintro ⟨hfollow, honce⟩
    exact
      { excluded := hexclusions.mpr hfollow
        counted := ⟨cancelled, hcancelled, hcounted.excluded⟩
        total := ⟨rfl, hcounted.total⟩
        tools := hcounted.tools
        completions := hcompletions.mpr honce }

end Main

/-! ## Two logs -/

section Logs

/-- An executed row about a task. -/
def executedRow (tool taskId : String) (stamp : ℚ) : AuditEntry ℚ :=
  { timestamp := some (.fin stamp)
    tool := some tool
    result := some "executed"
    detail := .dict [("task_id", .str taskId)]
    robot := some "bot1" }

/-- The log of one server: two tasks, the first of which is cancelled. -/
def oneServer : List (AuditEntry ℚ) :=
  [executedRow "dispatch_task" "nav_001" 1, executedRow "dispatch_task" "nav_002" 2,
    executedRow "cancel_task" "nav_001" 3]

/-- The log of two servers: the second one counts its tasks from the beginning again. -/
def twoServers : List (AuditEntry ℚ) :=
  [executedRow "dispatch_task" "nav_001" 1, executedRow "cancel_task" "nav_001" 2,
    executedRow "dispatch_task" "nav_001" 3]

/-- The report of a log with one completion, without summaries. -/
def exactReport (entries : List (AuditEntry ℚ)) : Except PyErr (KpiReport ℚ Unit) :=
  computeKpis (FloatFormat.exact ℚ) (fun _ => .ok ()) (fun _ => none) true
    (Dict.empty.set "nav_002" (some (.fin 5))) entries

/-- The report of one server exists, so its accounting is what the log says of it. -/
theorem one_server_accounts : ∃ report, exactReport oneServer = .ok report ∧
    (Accounts oneServer (Dict.empty.set "nav_002" (some (.fin 5))) report ↔
      CancelsFollow oneServer ∧
        DispatchedOnce oneServer (Dict.empty.set "nav_002" (some (.fin 5)))) := by
  have hok : (exactReport oneServer).toOption.isSome = true := by decide +kernel
  cases hreport : exactReport oneServer with
  | error e =>
    rw [hreport] at hok
    cases hok
  | ok report => exact ⟨report, rfl, kpi_accounting_iff hreport⟩

/-- The dispatch of the second server is left out for the cancellation of the first one's. -/
theorem second_server_dropped : ∃ report, exactReport twoServers = .ok report ∧
    report.excludedCancelled = 3 ∧
    ¬ Accounts twoServers (Dict.empty.set "nav_002" (some (.fin 5))) report := by
  have hcount : (exactReport twoServers).toOption.map KpiReport.excludedCancelled = some 3 := by
    decide +kernel
  cases hreport : exactReport twoServers with
  | error e =>
    rw [hreport] at hcount
    cases hcount
  | ok report =>
    rw [hreport] at hcount
    refine ⟨report, rfl, Option.some.inj hcount, fun haccounts => ?_⟩
    obtain ⟨cancelled, hcancelled, -⟩ := haccounts.counted
    have hdispatch : (executedRow "dispatch_task" "nav_001" 3).isDispatch = true := by
      decide +kernel
    have hcancel : (executedRow "cancel_task" "nav_001" 2).isExecutedCancel = true := by
      decide +kernel
    have hexcluded : Excluded twoServers (executedRow "dispatch_task" "nav_001" 3) :=
      (excluded_iff hcancelled hdispatch).mpr
        ⟨executedRow "cancel_task" "nav_001" 2, by simp [twoServers], hcancel, _, rfl, rfl⟩
    obtain ⟨between, cancel, rest, hpost, -⟩ :=
      (haccounts.excluded [_, _] _ [] rfl hdispatch).mp hexcluded
    exact absurd hpost (by simp)

end Logs

end Kpi

end MiniatureWarehouse
