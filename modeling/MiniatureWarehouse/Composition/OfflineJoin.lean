import MiniatureWarehouse.Framework.Loops
import MiniatureWarehouse.Framework.Tally
import MiniatureWarehouse.LlmBridge.DecisionNotice
import Mathlib.Order.Bounds.Basic

/-!
# The offline join

After a run three logs are joined into one row of counters for each generation of the planner: the
audit rows of the gate, the decision events, and the results of the navigation.  A row whose
generation cannot be read joins nowhere, and the report counts these rows beside the table.  A
result mostly names no generation; the audit row that dispatched its task does.

Every row is a mark or two in a `tally`, so nothing is counted twice and nothing is lost.  The one
value the join cannot stand is an infinite number for a generation: `int` raises what the coercion
does not catch (`join_conserves_iff`).
-/

namespace MiniatureWarehouse

namespace OfflineJoin

open OperatorFeedback (toInt isInfinite toInt_cases)

/-- A row of a log: a decoded object. -/
abbrev Row (α : Type) := List (String × PyVal α)

/-- `row.get(name)`. -/
def field {α : Type} (row : Row α) (name : String) : PyVal α := (Dict.find row name).getD .null

/-- The counters of a row of the report. -/
inductive Column
  | auditExecuted
  | auditRejected
  | auditError
  | auditOther
  | eventsTotal
  | events (decision : String)
  | eventsOther
  | resultsSucceeded
  | resultsFailed
  deriving DecidableEq, Repr

/-- `DECISION_COLUMNS`. -/
def decisionColumns : List String :=
  ["accepted", "rejected", "warning", "needs_clarification", "emergency_stop"]

section Join

variable {α : Type} [Field α] [LinearOrder α] [FloorRing α] (parseInt : String → Option ℤ)

/-- `coerce_gen_id`. -/
def coerceGenId : PyVal α → Except PyErr (Option ℤ)
  | .null | .bool _ => .ok none
  | v => match toInt parseInt v with
    | .ok i => .ok (some i)
    | .error .typeError | .error .valueError => .ok none
    | .error e => .error e

/-- `_audit_gen_id`. -/
def auditGenId (row : Row α) : Except PyErr (Option ℤ) :=
  match field row "detail" with
  | .dict detail => coerceGenId parseInt (field detail "gen_id")
  | _ => .ok none

omit [Field α] [LinearOrder α] [FloorRing α] in
/-- `_audit_task_id`. -/
def auditTaskId (row : Row α) : Option String :=
  match field row "detail" with
  | .dict detail => match field detail "task_id" with
    | .str task => if task = "" then none else some task
    | _ => none
  | _ => none

/-- One turn of the loop of `build_task_to_gen`: the smallest generation of a task wins. -/
def addTask (mapping : Dict String ℤ) (row : Row α) : Except PyErr (Dict String ℤ) :=
  (auditGenId parseInt row).map fun genId =>
    match auditTaskId row, genId with
    | some task, some g => mapping.set task ((mapping.get? task).elim g fun old => min old g)
    | _, _ => mapping

/-- `build_task_to_gen`. -/
def buildTaskToGen (auditRows : List (Row α)) : Except PyErr (Dict String ℤ) :=
  auditRows.foldlM (addTask parseInt) .empty

/-- `_result_gen_id`. -/
def resultGenId (taskToGen : Dict String ℤ) (row : Row α) : Except PyErr (Option ℤ) :=
  (coerceGenId parseInt (field row "gen_id")).map fun
    | some own => some own
    | none => match field row "task_id" with
      | .str task => taskToGen.get? task
      | _ => none

omit [Field α] [LinearOrder α] [FloorRing α] in
/-- The column an audit row counts in. -/
def auditColumn (row : Row α) : Column :=
  match field row "result" with
  | .str "executed" => .auditExecuted
  | .str "rejected" => .auditRejected
  | .str "error" => .auditError
  | _ => .auditOther

omit [Field α] [LinearOrder α] [FloorRing α] in
/-- The column an event counts in, besides the total. -/
def eventColumn (row : Row α) : Column :=
  match field row "decision" with
  | .str decision => if decision ∈ decisionColumns then .events decision else .eventsOther
  | _ => .eventsOther

omit [Field α] [LinearOrder α] [FloorRing α] in
/-- The column a result counts in. -/
def resultColumn (row : Row α) : Column :=
  match field row "result" with
  | .str "succeeded" => .resultsSucceeded
  | _ => .resultsFailed

/-- The counters of each generation. -/
abbrev Table := Dict ℤ (Column → ℕ)

/-- One turn of the loop over the audit rows. -/
def addAudit (table : Table) (row : Row α) : Except PyErr Table :=
  (auditGenId parseInt row).map fun
    | none => table
    | some g => bump table (g, auditColumn row)

/-- One turn of the loop over the events. -/
def addEvent (table : Table) (row : Row α) : Except PyErr Table :=
  (coerceGenId parseInt (field row "gen_id")).map fun
    | none => table
    | some g => bump (bump table (g, .eventsTotal)) (g, eventColumn row)

/-- One turn of the loop over the results. -/
def addResult (taskToGen : Dict String ℤ) (table : Table) (row : Row α) : Except PyErr Table :=
  (resultGenId parseInt taskToGen row).map fun
    | none => table
    | some g => bump table (g, resultColumn row)

/-- `per_gen_rows_python`. -/
def perGenRows (auditRows eventRows resultRows : List (Row α)) :
    Except PyErr (List (ℤ × (Column → ℕ))) := do
  let table ← auditRows.foldlM (addAudit parseInt) Dict.empty
  let table ← eventRows.foldlM (addEvent parseInt) table
  let taskToGen ← buildTaskToGen parseInt auditRows
  let table ← resultRows.foldlM (addResult parseInt taskToGen) table
  .ok (sortedRows table fun _ => 0)

/-- `sum(1 for row in rows if gen_id(row) is None)`. -/
def unjoined (genId : Row α → Except PyErr (Option ℤ)) (rows : List (Row α)) : Except PyErr ℕ :=
  rows.foldlM (fun n row => (genId row).map fun g => if g.isNone then n + 1 else n) 0

/-- `unjoined_audit` of the report. -/
def unjoinedAudit (auditRows : List (Row α)) : Except PyErr ℕ :=
  unjoined (auditGenId parseInt) auditRows

/-- `unjoined_events` of the report. -/
def unjoinedEvents (eventRows : List (Row α)) : Except PyErr ℕ :=
  unjoined (fun row => coerceGenId parseInt (field row "gen_id")) eventRows

/-- `unjoined_results` of the report. -/
def unjoinedResults (auditRows resultRows : List (Row α)) : Except PyErr ℕ :=
  (buildTaskToGen parseInt auditRows).bind fun taskToGen =>
    unjoined (resultGenId parseInt taskToGen) resultRows

end Join

/-! ## Conservation -/

/-- The columns of the audit rows. -/
def auditColumns : List Column := [.auditExecuted, .auditRejected, .auditError, .auditOther]

/-- The columns of the events, apart from their total. -/
def eventColumns : List Column := decisionColumns.map .events ++ [.eventsOther]

/-- The columns of the results. -/
def resultColumns : List Column := [.resultsSucceeded, .resultsFailed]

/-- The sum of some columns over all generations. -/
def columnSum (table : List (ℤ × (Column → ℕ))) (columns : List Column) : ℕ :=
  (columns.map fun c => (table.map fun row => row.2 c).sum).sum

/-- Every row of a source is in one of its columns, or in the report's counter of rows that did not
join. -/
def Accounts (table : List (ℤ × (Column → ℕ))) (columns : List Column) (counter : Except PyErr ℕ)
    (rows : ℕ) : Prop :=
  ∃ n, counter = .ok n ∧ columnSum table columns + n = rows

section Conservation

variable {α : Type} [Field α] [LinearOrder α] [FloorRing α] (parseInt : String → Option ℤ)

/-- What a table owes to its logs. -/
structure Conserves (auditRows eventRows resultRows : List (Row α))
    (table : List (ℤ × (Column → ℕ))) : Prop where
  increasing : (table.map Prod.fst).Pairwise (· < ·)
  audit : Accounts table auditColumns (unjoinedAudit parseInt auditRows) auditRows.length
  eventsTotal : Accounts table [.eventsTotal] (unjoinedEvents parseInt eventRows) eventRows.length
  events : Accounts table eventColumns (unjoinedEvents parseInt eventRows) eventRows.length
  results : Accounts table resultColumns (unjoinedResults parseInt auditRows resultRows)
    resultRows.length

/-- The join yields a table that conserves the rows, and yields it for the rows in any order. -/
def Joins (auditRows eventRows resultRows : List (Row α)) : Prop :=
  (∃ table, perGenRows parseInt auditRows eventRows resultRows = .ok table ∧
    Conserves parseInt auditRows eventRows resultRows table) ∧
  ∀ auditRows' eventRows' resultRows', auditRows.Perm auditRows' → eventRows.Perm eventRows' →
    resultRows.Perm resultRows' → perGenRows parseInt auditRows' eventRows' resultRows' =
      perGenRows parseInt auditRows eventRows resultRows

omit [Field α] [LinearOrder α] [FloorRing α] in
/-- The value an audit row has for its generation, `None` included. -/
def auditGen (row : Row α) : PyVal α :=
  match field row "detail" with
  | .dict detail => field detail "gen_id"
  | _ => .null

omit [Field α] [LinearOrder α] [FloorRing α] in
/-- No row names an infinite generation. -/
def FiniteGens (auditRows eventRows resultRows : List (Row α)) : Prop :=
  (∀ row ∈ auditRows, isInfinite (auditGen row) = false) ∧
    (∀ row ∈ eventRows, isInfinite (field row "gen_id") = false) ∧
    ∀ row ∈ resultRows, isInfinite (field row "gen_id") = false

end Conservation

/-! ## The join without its failures -/

section Pure

variable {α : Type} [Field α] [LinearOrder α] [FloorRing α] (parseInt : String → Option ℤ)

/-- The generation a value names, an infinite one left out. -/
def genOf (v : PyVal α) : Option ℤ :=
  match coerceGenId parseInt v with
  | .ok g => g
  | .error _ => none

/-- The generation of a result, through its task when it names none itself. -/
def resultGen (tasks : String → Option ℤ) (row : Row α) : Option ℤ :=
  match genOf parseInt (field row "gen_id") with
  | some own => some own
  | none => match field row "task_id" with
    | .str task => tasks task
    | _ => none

/-- The increments of an audit row. -/
def auditMarks (row : Row α) : List (ℤ × Column) :=
  (genOf parseInt (auditGen row)).elim [] fun g => [(g, auditColumn row)]

/-- The increments of an event. -/
def eventMarks (row : Row α) : List (ℤ × Column) :=
  (genOf parseInt (field row "gen_id")).elim [] fun g => [(g, .eventsTotal), (g, eventColumn row)]

/-- The increments of a result. -/
def resultMarks (tasks : String → Option ℤ) (row : Row α) : List (ℤ × Column) :=
  (resultGen parseInt tasks row).elim [] fun g => [(g, resultColumn row)]

/-- `addTask` without its failure. -/
def nextTask (mapping : Dict String ℤ) (row : Row α) : Dict String ℤ :=
  match auditTaskId row, genOf parseInt (auditGen row) with
  | some task, some g => mapping.set task ((mapping.get? task).elim g fun old => min old g)
  | _, _ => mapping

/-- The generations of the tasks. -/
def taskGens (auditRows : List (Row α)) : Dict String ℤ :=
  auditRows.foldl (nextTask parseInt) .empty

/-- All increments of a join. -/
def marks (auditRows eventRows resultRows : List (Row α)) : List (ℤ × Column) :=
  auditRows.flatMap (auditMarks parseInt) ++ eventRows.flatMap (eventMarks parseInt) ++
    resultRows.flatMap (resultMarks parseInt (taskGens parseInt auditRows).get?)

variable {parseInt}

/-- The coercion fails at an infinite number, and nowhere else. -/
lemma coerceGenId_eq (v : PyVal α) : coerceGenId parseInt v =
    if isInfinite v then .error .overflowError else .ok (genOf parseInt v) := by
  have hcases := toInt_cases parseInt v
  unfold genOf
  cases v with
  | null => rfl
  | bool b => rfl
  | _ =>
    simp only [coerceGenId]
    rcases hcases with ⟨hinf, h⟩ | ⟨hfin, ⟨i, h⟩ | h | h⟩
    · rw [h, hinf]
      rfl
    all_goals
      rw [h, hfin]
      rfl

lemma auditGenId_eq (row : Row α) : auditGenId parseInt row =
    if isInfinite (auditGen row) then .error .overflowError
    else .ok (genOf parseInt (auditGen row)) := by
  rw [← coerceGenId_eq]
  unfold auditGenId auditGen
  split <;> rfl

lemma resultGenId_eq (mapping : Dict String ℤ) (row : Row α) : resultGenId parseInt mapping row =
    if isInfinite (field row "gen_id") then .error .overflowError
    else .ok (resultGen parseInt mapping.get? row) := by
  unfold resultGenId resultGen
  rw [coerceGenId_eq]
  split_ifs
  · rfl
  · cases genOf parseInt (field row "gen_id") <;> rfl

lemma addTask_eq (mapping : Dict String ℤ) (row : Row α) : addTask parseInt mapping row =
    if isInfinite (auditGen row) then .error .overflowError
    else .ok (nextTask parseInt mapping row) := by
  unfold addTask
  rw [auditGenId_eq]
  split_ifs <;> rfl

lemma addAudit_eq (table : Table) (row : Row α) : addAudit parseInt table row =
    if isInfinite (auditGen row) then .error .overflowError
    else .ok ((auditMarks parseInt row).foldl bump table) := by
  unfold addAudit auditMarks
  rw [auditGenId_eq]
  split_ifs
  · rfl
  · cases genOf parseInt (auditGen row) <;> rfl

lemma addEvent_eq (table : Table) (row : Row α) : addEvent parseInt table row =
    if isInfinite (field row "gen_id") then .error .overflowError
    else .ok ((eventMarks parseInt row).foldl bump table) := by
  unfold addEvent eventMarks
  rw [coerceGenId_eq]
  split_ifs
  · rfl
  · cases genOf parseInt (field row "gen_id") <;> rfl

lemma addResult_eq (mapping : Dict String ℤ) (table : Table) (row : Row α) :
    addResult parseInt mapping table row =
      if isInfinite (field row "gen_id") then .error .overflowError
      else .ok ((resultMarks parseInt mapping.get? row).foldl bump table) := by
  unfold addResult resultMarks
  rw [resultGenId_eq]
  split_ifs
  · rfl
  · cases resultGen parseInt mapping.get? row <;> rfl

/-- The join is the tally of the rows, unless one of them names an infinite generation. -/
lemma perGenRows_eq (auditRows eventRows resultRows : List (Row α)) :
    perGenRows parseInt auditRows eventRows resultRows =
      if auditRows.any (fun row => isInfinite (auditGen row)) ||
        (eventRows ++ resultRows).any (fun row => isInfinite (field row "gen_id"))
      then .error .overflowError
      else .ok (sortedRows (tally (marks parseInt auditRows eventRows resultRows)) fun _ => 0) := by
  have hresult : ∀ mapping table, resultRows.foldlM (addResult parseInt mapping) table = _ :=
    fun mapping => foldlM_guarded (addResult_eq mapping) resultRows
  unfold perGenRows buildTaskToGen
  simp only [foldlM_guarded addAudit_eq, foldlM_guarded addEvent_eq, foldlM_guarded addTask_eq,
    hresult, List.any_append]
  cases auditRows.any fun row => isInfinite (auditGen row) with
  | true => rfl
  | false =>
    cases eventRows.any fun row => isInfinite (field row "gen_id") with
    | true => rfl
    | false =>
      cases resultRows.any fun row => isInfinite (field row "gen_id") with
      | true => rfl
      | false =>
        unfold marks tally taskGens
        rw [List.foldl_append, List.foldl_append, List.foldl_flatMap, List.foldl_flatMap,
          List.foldl_flatMap]
        rfl

omit [Field α] [LinearOrder α] [FloorRing α] in
/-- The join succeeds when the generations are finite. -/
lemma any_eq_false_iff (auditRows eventRows resultRows : List (Row α)) :
    (auditRows.any (fun row => isInfinite (auditGen row)) ||
        (eventRows ++ resultRows).any (fun row => isInfinite (field row "gen_id"))) = false ↔
      FiniteGens auditRows eventRows resultRows := by
  unfold FiniteGens
  rw [Bool.or_eq_false_iff, List.any_append, Bool.or_eq_false_iff, List.any_eq_false,
    List.any_eq_false, List.any_eq_false]
  simp only [Bool.not_eq_true]

end Pure

/-! ## The order of the rows -/

section Order

variable {α : Type} [Field α] [LinearOrder α] [FloorRing α] {parseInt : String → Option ℤ}

variable (parseInt) in
/-- The generations the audit rows name for a task. -/
def namedGens (auditRows : List (Row α)) (task : String) : Set ℤ :=
  {g | ∃ row ∈ auditRows, auditTaskId row = some task ∧ genOf parseInt (auditGen row) = some g}

variable (parseInt) in
/-- The generation of a task is the least one named for it. -/
lemma taskGens_least (auditRows : List (Row α)) (task : String) :
    ((taskGens parseInt auditRows).get? task = none ∧ namedGens parseInt auditRows task = ∅) ∨
      ∃ g, (taskGens parseInt auditRows).get? task = some g ∧
        IsLeast (namedGens parseInt auditRows task) g := by
  induction auditRows using List.reverseRecOn with
  | nil => exact .inl ⟨rfl, by simp [namedGens]⟩
  | append_singleton rows row ih =>
    have hnext : taskGens parseInt (rows ++ [row]) =
        nextTask parseInt (taskGens parseInt rows) row := by
      unfold taskGens
      rw [List.foldl_append, List.foldl_cons, List.foldl_nil]
    rw [hnext]
    by_cases hnames : ∃ g, auditTaskId row = some task ∧ genOf parseInt (auditGen row) = some g
    · obtain ⟨g, htask, hgen⟩ := hnames
      have hinsert : namedGens parseInt (rows ++ [row]) task =
          insert g (namedGens parseInt rows task) := by
        ext j
        simp [namedGens, or_and_right, exists_or, htask, hgen, or_comm, eq_comm]
      have hset : (nextTask parseInt (taskGens parseInt rows) row).get? task =
          some (((taskGens parseInt rows).get? task).elim g fun old => min old g) := by
        unfold nextTask
        rw [htask, hgen]
        exact Dict.get?_set_self _ _ _
      rw [hset, hinsert]
      refine .inr ⟨_, rfl, ?_⟩
      rcases ih with ⟨hnone, hempty⟩ | ⟨old, hold, hleast⟩
      · rw [hnone, hempty, insert_empty_eq]
        exact isLeast_singleton
      · rw [hold, Option.elim_some, min_comm]
        exact hleast.insert g
    · have hsame : namedGens parseInt (rows ++ [row]) task = namedGens parseInt rows task := by
        ext j
        simp only [namedGens, List.mem_append, List.mem_singleton, Set.mem_ofPred_eq]
        constructor
        · rintro ⟨row', hmem | rfl, htask, hgen⟩
          · exact ⟨row', hmem, htask, hgen⟩
          · exact absurd ⟨j, htask, hgen⟩ hnames
        · rintro ⟨row', hmem, h⟩
          exact ⟨row', .inl hmem, h⟩
      have hget : (nextTask parseInt (taskGens parseInt rows) row).get? task =
          (taskGens parseInt rows).get? task := by
        unfold nextTask
        cases htask : auditTaskId row with
        | none => rfl
        | some task' =>
          cases hgen : genOf parseInt (auditGen row) with
          | none => rfl
          | some g =>
            refine Dict.get?_set_of_ne _ _ ?_
            rintro rfl
            exact hnames ⟨g, htask, hgen⟩
      rw [hget, hsame]
      exact ih

/-- The task map does not depend on the order of the audit rows. -/
lemma taskGens_perm {auditRows auditRows' : List (Row α)} (h : auditRows.Perm auditRows') :
    (taskGens parseInt auditRows).get? = (taskGens parseInt auditRows').get? := by
  funext task
  have hnamed : namedGens parseInt auditRows task = namedGens parseInt auditRows' task := by
    unfold namedGens
    simp only [h.mem_iff]
  rcases taskGens_least parseInt auditRows task with ⟨hnone, hempty⟩ | ⟨g, hg, hleast⟩
  · rcases taskGens_least parseInt auditRows' task with ⟨hnone', -⟩ | ⟨g', -, hleast'⟩
    · rw [hnone, hnone']
    · rw [← hnamed, hempty] at hleast'
      exact absurd hleast'.1 (Set.notMem_empty _)
  · rcases taskGens_least parseInt auditRows' task with
      ⟨-, hempty'⟩ | ⟨g', hg', hleast'⟩
    · rw [hnamed, hempty'] at hleast
      exact absurd hleast.1 (Set.notMem_empty _)
    · rw [hnamed] at hleast
      rw [hg, hg', hleast.unique hleast']

/-- Nor does the join depend on the order of any of its logs. -/
lemma perGenRows_perm {auditRows auditRows' eventRows eventRows' resultRows resultRows' :
    List (Row α)} (haudit : auditRows.Perm auditRows') (hevents : eventRows.Perm eventRows')
    (hresults : resultRows.Perm resultRows') :
    perGenRows parseInt auditRows' eventRows' resultRows' =
      perGenRows parseInt auditRows eventRows resultRows := by
  have hmarks : (marks parseInt auditRows' eventRows' resultRows').Perm
      (marks parseInt auditRows eventRows resultRows) := by
    unfold marks
    rw [taskGens_perm haudit]
    exact ((haudit.symm.flatMap_right _).append (hevents.symm.flatMap_right _)).append
      (hresults.symm.flatMap_right _)
  rw [perGenRows_eq, perGenRows_eq, sortedRows_tally_perm hmarks, haudit.any_eq,
    (hevents.append hresults).any_eq]

end Order

/-! ## Counting -/

/-- Some columns together count the marks in any of them. -/
lemma columnSum_tally (marks : List (ℤ × Column)) {columns : List Column} (h : columns.Nodup) :
    columnSum (sortedRows (tally marks) fun _ => 0) columns =
      marks.countP fun mark => mark.2 ∈ columns := by
  unfold columnSum
  simp only [sum_sortedRows_tally]
  induction columns with
  | nil => simp
  | cons c columns ih =>
    obtain ⟨hc, hcolumns⟩ := List.nodup_cons.mp h
    rw [List.map_cons, List.sum_cons, ih hcolumns]
    clear ih h
    simp only [List.mem_cons]
    induction marks with
    | nil => rfl
    | cons mark marks ih =>
      simp only [List.countP_cons, ← ih, decide_eq_true_eq]
      by_cases hmark : mark.2 = c
      · simp only [hmark, hc, true_or, if_true, if_false]
        omega
      · simp only [hmark, false_or, if_false]
        omega

section Counting

variable {α : Type}

/-- When every row that joins has one mark of a kind, the rows are those marks and the rows that do
not join. -/
lemma countP_flatMap_add (markOf : Row α → List (ℤ × Column)) (genId : Row α → Option ℤ)
    (p : ℤ × Column → Bool)
    (h : ∀ row, (markOf row).countP p + (if (genId row).isNone then 1 else 0) = 1)
    (rows : List (Row α)) :
    (rows.flatMap markOf).countP p + rows.countP (fun row => (genId row).isNone) = rows.length := by
  induction rows with
  | nil => rfl
  | cons row rows ih =>
    have := h row
    rw [List.flatMap_cons, List.countP_append, List.countP_cons, List.length_cons]
    omega

/-- The counter of the rows that do not join. -/
lemma unjoined_eq {genId : Row α → Except PyErr (Option ℤ)} {pure : Row α → Option ℤ}
    {bad : Row α → Bool}
    (h : ∀ row, genId row = if bad row then .error .overflowError else .ok (pure row))
    (rows : List (Row α)) :
    unjoined genId rows = if rows.any bad then .error .overflowError
      else .ok (rows.countP fun row => (pure row).isNone) := by
  have hstep : ∀ (n : ℕ) row, ((genId row).map fun g => if g.isNone then n + 1 else n) =
      if bad row then .error .overflowError
      else .ok (if (pure row).isNone then n + 1 else n) := by
    intro n row
    rw [h]
    split_ifs <;> simp_all [Except.map]
  have hcount : ∀ n, rows.foldl (fun n row => if (pure row).isNone then n + 1 else n) n =
      n + rows.countP fun row => (pure row).isNone := by
    intro n
    induction rows generalizing n with
    | nil => rfl
    | cons row rows ih =>
      rw [List.foldl_cons, ih, List.countP_cons]
      split_ifs <;> omega
  unfold unjoined
  rw [foldlM_guarded hstep, hcount, Nat.zero_add]

end Counting

/-! ## The theorem -/

section Theorem

variable {α : Type} [Field α] [LinearOrder α] [FloorRing α] {parseInt : String → Option ℤ}

omit [Field α] [LinearOrder α] [FloorRing α] in
lemma auditColumn_mem (row : Row α) : auditColumn row ∈ auditColumns := by
  unfold auditColumn
  split <;> decide

omit [Field α] [LinearOrder α] [FloorRing α] in
lemma eventColumn_mem (row : Row α) : eventColumn row ∈ eventColumns := by
  unfold eventColumn eventColumns
  split
  · split_ifs with hdecision
    · exact List.mem_append_left _ (List.mem_map_of_mem hdecision)
    · exact List.mem_append_right _ (List.mem_singleton_self _)
  · exact List.mem_append_right _ (List.mem_singleton_self _)

omit [Field α] [LinearOrder α] [FloorRing α] in
lemma resultColumn_mem (row : Row α) : resultColumn row ∈ resultColumns := by
  unfold resultColumn
  split <;> decide

/-- The columns of a source count the marks of that source alone. -/
lemma countP_marks {columns : List Column} (auditRows eventRows resultRows : List (Row α)) :
    (marks parseInt auditRows eventRows resultRows).countP (fun mark => mark.2 ∈ columns) =
      (auditRows.flatMap (auditMarks parseInt)).countP (fun mark => mark.2 ∈ columns) +
      (eventRows.flatMap (eventMarks parseInt)).countP (fun mark => mark.2 ∈ columns) +
      (resultRows.flatMap (resultMarks parseInt (taskGens parseInt auditRows).get?)).countP
        fun mark => mark.2 ∈ columns := by
  unfold marks
  rw [List.countP_append, List.countP_append]

omit [Field α] [LinearOrder α] [FloorRing α] in
/-- A source that never marks some columns counts nothing in them. -/
lemma countP_flatMap_eq_zero {markOf : Row α → List (ℤ × Column)} {own columns : List Column}
    (hown : ∀ row, ∀ mark ∈ markOf row, mark.2 ∈ own) (hdisjoint : ∀ c ∈ own, c ∉ columns)
    (rows : List (Row α)) : (rows.flatMap markOf).countP (fun mark => mark.2 ∈ columns) = 0 := by
  rw [List.countP_eq_zero]
  intro mark hmark
  obtain ⟨row, -, hmark⟩ := List.mem_flatMap.mp hmark
  rw [decide_eq_true_eq]
  exact hdisjoint _ (hown row mark hmark)

lemma mem_auditMarks (row : Row α) : ∀ mark ∈ auditMarks parseInt row, mark.2 ∈ auditColumns := by
  unfold auditMarks
  cases genOf parseInt (auditGen row) with
  | none => exact fun mark hmark => absurd hmark List.not_mem_nil
  | some g => exact List.forall_mem_singleton.mpr (auditColumn_mem row)

lemma mem_eventMarks (row : Row α) :
    ∀ mark ∈ eventMarks parseInt row, mark.2 ∈ .eventsTotal :: eventColumns := by
  unfold eventMarks
  cases genOf parseInt (field row "gen_id") with
  | none => exact fun mark hmark => absurd hmark List.not_mem_nil
  | some g =>
    refine List.forall_mem_cons.mpr ⟨List.mem_cons_self, List.forall_mem_singleton.mpr ?_⟩
    exact List.mem_cons_of_mem _ (eventColumn_mem row)

lemma mem_resultMarks (tasks : String → Option ℤ) (row : Row α) :
    ∀ mark ∈ resultMarks parseInt tasks row, mark.2 ∈ resultColumns := by
  unfold resultMarks
  cases resultGen parseInt tasks row with
  | none => exact fun mark hmark => absurd hmark List.not_mem_nil
  | some g => exact List.forall_mem_singleton.mpr (resultColumn_mem row)

section Accounts

variable {auditRows eventRows resultRows : List (Row α)}

/-- The audit rows are in the audit columns. -/
lemma accounts_audit (h : ∀ row ∈ auditRows, isInfinite (auditGen row) = false) :
    Accounts (sortedRows (tally (marks parseInt auditRows eventRows resultRows)) fun _ => 0)
      auditColumns (unjoinedAudit parseInt auditRows) auditRows.length := by
  have hcount := countP_flatMap_add (auditMarks parseInt)
    (fun row => genOf parseInt (auditGen row)) (·.2 ∈ auditColumns) ?_ auditRows
  · refine ⟨_, (unjoined_eq auditGenId_eq auditRows).trans (if_neg (by simpa using h)), ?_⟩
    rw [columnSum_tally _ (by decide), countP_marks,
      countP_flatMap_eq_zero mem_eventMarks (by decide),
      countP_flatMap_eq_zero (mem_resultMarks _) (by decide)]
    exact hcount
  · intro row
    unfold auditMarks
    cases genOf parseInt (auditGen row) with
    | none => rfl
    | some g => simp [auditColumn_mem row]

/-- The events are in any columns that take one mark of each. -/
lemma accounts_events (h : ∀ row ∈ eventRows, isInfinite (field row "gen_id") = false)
    {columns : List Column} (hnodup : columns.Nodup)
    (haudit : ∀ c ∈ auditColumns, c ∉ columns) (hresult : ∀ c ∈ resultColumns, c ∉ columns)
    (hone : ∀ row : Row α, [Column.eventsTotal, eventColumn row].countP (· ∈ columns) = 1) :
    Accounts (sortedRows (tally (marks parseInt auditRows eventRows resultRows)) fun _ => 0)
      columns (unjoinedEvents parseInt eventRows) eventRows.length := by
  have hcount := countP_flatMap_add (eventMarks parseInt)
    (fun row => genOf parseInt (field row "gen_id")) (·.2 ∈ columns) ?_ eventRows
  · have hread : ∀ row : Row α, coerceGenId parseInt (field row "gen_id") = _ :=
      fun row => coerceGenId_eq (field row "gen_id")
    refine ⟨_, (unjoined_eq hread eventRows).trans (if_neg (by simpa using h)), ?_⟩
    rw [columnSum_tally _ hnodup, countP_marks, countP_flatMap_eq_zero mem_auditMarks haudit,
      countP_flatMap_eq_zero (mem_resultMarks _) hresult, Nat.zero_add]
    exact hcount
  · intro row
    unfold eventMarks
    cases genOf parseInt (field row "gen_id") with
    | none => rfl
    | some g => simpa [List.countP_cons] using hone row

/-- The results are in the result columns. -/
lemma accounts_results (haudit : ∀ row ∈ auditRows, isInfinite (auditGen row) = false)
    (h : ∀ row ∈ resultRows, isInfinite (field row "gen_id") = false) :
    Accounts (sortedRows (tally (marks parseInt auditRows eventRows resultRows)) fun _ => 0)
      resultColumns (unjoinedResults parseInt auditRows resultRows) resultRows.length := by
  have hcount := countP_flatMap_add (resultMarks parseInt (taskGens parseInt auditRows).get?)
    (resultGen parseInt (taskGens parseInt auditRows).get?) (·.2 ∈ resultColumns) ?_ resultRows
  · have htasks : buildTaskToGen parseInt auditRows = .ok (taskGens parseInt auditRows) :=
      (foldlM_guarded addTask_eq auditRows _).trans (if_neg (by simpa using haudit))
    have hunjoined : unjoinedResults parseInt auditRows resultRows = .ok (resultRows.countP
        fun row => (resultGen parseInt (taskGens parseInt auditRows).get? row).isNone) := by
      unfold unjoinedResults
      rw [htasks]
      exact (unjoined_eq (resultGenId_eq _) resultRows).trans (if_neg (by simpa using h))
    refine ⟨_, hunjoined, ?_⟩
    rw [columnSum_tally _ (by decide), countP_marks,
      countP_flatMap_eq_zero mem_auditMarks (by decide),
      countP_flatMap_eq_zero mem_eventMarks (by decide), Nat.zero_add]
    exact hcount
  · intro row
    unfold resultMarks
    cases resultGen parseInt (taskGens parseInt auditRows).get? row with
    | none => rfl
    | some g => simp [resultColumn_mem row]

end Accounts

/-- **The join conserves rows while generations are finite.**  It yields a table, in increasing
order of the generations and the same whatever the order of the rows, in which the columns of each
source and the report's counter of rows that did not join add up to the rows of the source, exactly
when no row names an infinite generation. -/
theorem join_conserves_iff (parseInt : String → Option ℤ)
    (auditRows eventRows resultRows : List (Row α)) :
    Joins parseInt auditRows eventRows resultRows ↔ FiniteGens auditRows eventRows resultRows := by
  constructor
  · rintro ⟨⟨table, hok, -⟩, -⟩
    rw [perGenRows_eq] at hok
    rw [← any_eq_false_iff, ← Bool.not_eq_true]
    intro hbad
    rw [if_pos hbad] at hok
    cases hok
  · intro hfinite
    have hok : perGenRows parseInt auditRows eventRows resultRows =
        .ok (sortedRows (tally (marks parseInt auditRows eventRows resultRows)) fun _ => 0) := by
      rw [perGenRows_eq, (any_eq_false_iff _ _ _).mpr hfinite]
      rfl
    refine ⟨⟨_, hok, ?_⟩, fun _ _ _ => perGenRows_perm⟩
    refine ⟨?_, accounts_audit hfinite.1, ?_, ?_, accounts_results hfinite.1 hfinite.2.2⟩
    · rw [map_fst_sortedRows]
      exact pairwise_sortedKeys _
    · refine accounts_events hfinite.2.1 (by decide) (by decide) (by decide) fun row => ?_
      have hother : eventColumn row ≠ .eventsTotal := by
        intro heq
        have hmem := eventColumn_mem row
        rw [heq] at hmem
        exact absurd hmem (by decide)
      simp [hother]
    · refine accounts_events hfinite.2.1 (by decide) (by decide) (by decide) fun row => ?_
      have hmem := eventColumn_mem row
      have htotal : Column.eventsTotal ∉ eventColumns := by decide
      simp [hmem, htotal]

/-- An event of the planner's generation 1e400, which the decoder of the log reads as an infinite
number, fails the join. -/
theorem infinite_event_fails :
    perGenRows (fun _ => none) [] [[("gen_id", .float (α := ℚ) .posInf)]] [] =
        .error .overflowError ∧
      ¬ Joins (fun _ => none) [] [[("gen_id", .float (α := ℚ) .posInf)]] [] := by
  refine ⟨rfl, ?_⟩
  rintro ⟨⟨table, hok, -⟩, -⟩
  cases hok

end Theorem

end OfflineJoin

end MiniatureWarehouse
