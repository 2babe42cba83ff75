import MiniatureWarehouse.Framework.Runs
import MiniatureWarehouse.Framework.StableSort
import MiniatureWarehouse.WebBridge.EventLog
import MiniatureWarehouse.WebBridge.RecordingNames

/-!
# The recordings directory

A run's log is spread over files of a directory that all runs share, and is put together again from
their names.  Starting a run prunes the others: the newest ones are kept, up to a limit, and of the
rest every file is deleted.

`Archive` says what the directory is for: it keeps some runs whole, and forgets others whole.
`recordings_archive` is the refinement: after any interleaving of starts and appends, of any number
of gateways, the files found for a run are those of the lines the archive keeps for it, as if the
run had the directory for itself.
-/

namespace MiniatureWarehouse

namespace WebBridge

open Deploy (DecimalDigits)

/-- A file of the directory, with the time of its last change. -/
structure Recording (τ : Type*) where
  bytes : ByteArray
  mtime : τ

/-- The recordings directory: its files by name, in the order it lists them. -/
abbrev Recordings (τ : Type*) := Dict PyStr (Recording τ)

/-! ## The directory operations -/

section Directory

variable {τ : Type*} (digits : DecimalDigits) (maxBytes : ℤ)

/-- A file as a segment of the run, when it is one. -/
def segmentOf (run : RunId) (e : PyStr × Recording τ) : Option (ℕ × ByteArray) :=
  if matchesGlob (filePrefix ++ run.chars) e.1 then
    match parseSegment digits e.1 with
    | some (chars, idx) => if chars = run.chars then some (idx, e.2.bytes) else none
    | none => none
  else none

/-- The list `segments` of `_segments_in_order`, before it is sorted. -/
def segments (run : RunId) (dir : Recordings τ) : List (ℕ × ByteArray) :=
  dir.entries.filterMap (segmentOf digits run)

/-- `_segments_in_order`. -/
def sortedSegments (run : RunId) (dir : Recordings τ) : List ByteArray :=
  ((segments digits run dir).insertionSort ReplaysBefore).map Prod.snd

/-- `iter_since`, run to its end. -/
def readSince {α : Type} (scan : JsonScan α) (run : RunId) (dir : Recordings τ) (r : Replay) :
    Except PyErr (List (PyVal α)) :=
  ((sortedSegments digits run dir).mapM fun bytes => (readText bytes).bind (replayText scan r)).map
    List.flatten

/-- The numbers in use, and the next one. -/
def nextSegment (run : RunId) (dir : Recordings τ) : ℕ :=
  (dir.entries.filterMap fun e =>
    if matchesGlob (filePrefix ++ (run.chars ++ [dot])) e.1 then
      (parseSegment digits e.1).map Prod.snd
    else none).foldl max 0 + 1

/-- `_rotate`. -/
def rotateFile (run : RunId) (dir : Recordings τ) : Recordings τ :=
  match dir.get? (currentName run) with
  | none => dir
  | some file =>
    (dir.erase (currentName run)).set (rolledName run (nextSegment digits run dir)) file

/-- The first half of `append`. -/
def makeRoomFor (run : RunId) (dir : Recordings τ) (line : ByteArray) : Recordings τ :=
  let existing := ((dir.get? (currentName run)).map fun file => file.bytes.size).getD 0
  if 0 < existing ∧ maxBytes < (existing + line.size : ℕ) then rotateFile digits run dir else dir

/-- The second half of `append`, at a reading of the clock of the file system. -/
def writeFile (run : RunId) (dir : Recordings τ) (bytes : ByteArray) (now : τ) : Recordings τ :=
  let old := ((dir.get? (currentName run)).map Recording.bytes).getD ByteArray.empty
  dir.set (currentName run) ⟨old ++ bytes, now⟩

/-- `append` of an encoded line, of which `written` reaches the disk. -/
def appendFile (run : RunId) (dir : Recordings τ) (line written : ByteArray) (now : τ) :
    Recordings τ :=
  writeFile run (makeRoomFor digits maxBytes run dir line) written now

/-! ## Retention -/

variable [LinearOrder τ]

/-- The dictionary `by_run`. -/
def byRun (dir : Recordings τ) : Dict PyStr (List (PyStr × Recording τ)) :=
  Dict.groupBy
    (fun e => if matchesGlob filePrefix e.1 then (parseSegment digits e.1).map Prod.fst else none)
    id dir.entries

/-- `max(p.stat().st_mtime for p in by_run[run])`. -/
def lastModified (groups : Dict PyStr (List (PyStr × Recording τ))) (run : PyStr) : WithBot τ :=
  ((groups.getD run []).map fun e => (e.2.mtime : WithBot τ)).foldr max ⊥

/-- The runs that are pruned when a run is started: `others[max(max_runs - 1, 0):]`. -/
def staleRuns (maxRuns : ℤ) (run : RunId) (dir : Recordings τ) : List PyStr :=
  let groups := byRun digits dir
  let others := (groups.entries.map Prod.fst).filter fun chars => chars ≠ run.chars
  (sortBy (fun chars => OrderDual.toDual (lastModified groups chars)) others).drop
    (max (maxRuns - 1) 0).toNat

/-- `_enforce_retention`. -/
def enforceRetention (maxRuns : ℤ) (run : RunId) (dir : Recordings τ) : Recordings τ :=
  ((staleRuns digits maxRuns run dir).flatMap fun chars =>
    ((byRun digits dir).getD chars []).map Prod.fst).foldl Dict.erase dir

end Directory

/-! ## One run among the others -/

section Shown

variable {τ : Type*} {digits : DecimalDigits}

/-- Every file is a segment of some run. -/
def Named (es : List (PyStr × Recording τ)) : Prop := ∀ e ∈ es, ∃ run idx, e.1 = segmentName run idx

/-- What the entries show of a run. -/
def shown (digits : DecimalDigits) (run : RunId) (es : List (PyStr × Recording τ)) :
    List (ℕ × ByteArray) :=
  es.filterMap (segmentOf digits run)

lemma segmentOf_segmentName (run other : RunId) (idx : ℕ) (file : Recording τ) :
    segmentOf digits run (segmentName other idx, file) =
      if other = run then some (idx, file.bytes) else none := by
  unfold segmentOf
  rw [parseSegment_segmentName]
  by_cases h : other = run
  · subst h
    rw [if_pos rfl, if_pos (matchesGlob_run other idx)]
    exact if_pos rfl
  · have hchars : other.chars ≠ run.chars := fun hc => h (RunId.ext hc)
    rw [if_neg h]
    dsimp only
    rw [if_neg hchars, ite_self]

lemma shown_cons (run other : RunId) (idx : ℕ) (file : Recording τ)
    (es : List (PyStr × Recording τ)) :
    shown digits run ((segmentName other idx, file) :: es) =
      if other = run then (idx, file.bytes) :: shown digits run es else shown digits run es := by
  unfold shown
  rw [List.filterMap_cons, segmentOf_segmentName]
  split_ifs <;> rfl

/-- Finding a file by its name. -/
lemma find_shown (run : RunId) (idx : ℕ) {es : List (PyStr × Recording τ)} (hes : Named es) :
    Dict.find (shown digits run es) idx =
      (Dict.find es (segmentName run idx)).map Recording.bytes := by
  induction es with
  | nil => rfl
  | cons e es ih =>
    obtain ⟨name, file⟩ := e
    obtain ⟨⟨other, i, rfl⟩, hrest⟩ := List.forall_mem_cons.mp hes
    rw [shown_cons, Dict.find]
    by_cases h : other = run
    · subst h
      rw [if_pos rfl, Dict.find]
      by_cases hi : i = idx
      · rw [if_pos hi, if_pos (by rw [hi])]
        rfl
      · rw [if_neg hi, if_neg fun hname => hi ((segmentName_inj digits).mp hname).2]
        exact ih hrest
    · rw [if_neg h, if_neg fun hname => h ((segmentName_inj digits).mp hname).1]
      exact ih hrest

/-- Writing a segment of one run. -/
lemma shown_assign (run other : RunId) (idx : ℕ) (file : Recording τ)
    {es : List (PyStr × Recording τ)} (hes : Named es) :
    shown digits run (Dict.assign es (segmentName other idx) file) =
      if other = run then Dict.assign (shown digits run es) idx file.bytes
      else shown digits run es := by
  induction es with
  | nil =>
    rw [Dict.assign, shown_cons]
    rfl
  | cons e es ih =>
    obtain ⟨name, old⟩ := e
    obtain ⟨⟨owner, i, rfl⟩, hrest⟩ := List.forall_mem_cons.mp hes
    by_cases hsame : owner = other ∧ i = idx
    · obtain ⟨rfl, rfl⟩ := hsame
      rw [Dict.assign, if_pos rfl, shown_cons, shown_cons]
      split_ifs
      · rw [Dict.assign, if_pos rfl]
      · rfl
    · have hname : segmentName owner i ≠ segmentName other idx := fun h =>
        hsame ((segmentName_inj digits).mp h)
      rw [Dict.assign, if_neg hname, shown_cons, shown_cons, ih hrest]
      by_cases hown : owner = run
      · subst hown
        rw [if_pos rfl, if_pos rfl]
        by_cases hother : other = owner
        · have hi : i ≠ idx := fun h => hsame ⟨hother.symm, h⟩
          rw [if_pos hother, if_pos hother, Dict.assign, if_neg hi]
        · rw [if_neg hother, if_neg hother]
      · rw [if_neg hown, if_neg hown]

/-- Deleting files, none of a run or all of them, or one of its segments. -/
lemma shown_filter (run : RunId) (p : PyStr × Recording τ → Bool) (q : ℕ → Bool)
    {es : List (PyStr × Recording τ)} (hes : Named es)
    (hp : ∀ idx file, (segmentName run idx, file) ∈ es → p (segmentName run idx, file) = q idx) :
    shown digits run (es.filter p) = (shown digits run es).filter fun e => q e.1 := by
  induction es with
  | nil => rfl
  | cons e es ih =>
    obtain ⟨name, file⟩ := e
    obtain ⟨⟨owner, i, rfl⟩, hrest⟩ := List.forall_mem_cons.mp hes
    have htail := ih hrest fun idx f hf => hp idx f (List.mem_cons_of_mem _ hf)
    rw [List.filter_cons, shown_cons]
    by_cases hown : owner = run
    · subst hown
      rw [if_pos rfl, List.filter_cons, ← hp i file List.mem_cons_self, ← htail]
      split_ifs with hkeep
      · rw [shown_cons, if_pos rfl]
      · rfl
    · rw [if_neg hown, ← htail]
      split_ifs with hkeep
      · rw [shown_cons, if_neg hown]
      · rfl

/-- The numbers in use, as the glob of the rolled segments finds them. -/
lemma rolled_shown (run : RunId) {es : List (PyStr × Recording τ)} (hes : Named es) :
    (es.filterMap fun e =>
      if matchesGlob (filePrefix ++ (run.chars ++ [dot])) e.1 then
        (parseSegment digits e.1).map Prod.snd
      else none) = ((shown digits run es).map Prod.fst).filter fun idx => idx ≠ 0 := by
  induction es with
  | nil => rfl
  | cons e es ih =>
    obtain ⟨name, file⟩ := e
    obtain ⟨⟨owner, i, rfl⟩, hrest⟩ := List.forall_mem_cons.mp hes
    rw [List.filterMap_cons, ih hrest, shown_cons, parseSegment_segmentName]
    by_cases hown : owner = run
    · subst hown
      rw [if_pos rfl, List.map_cons, List.filter_cons]
      by_cases hi : i = 0
      · have hglob : ¬ matchesGlob (filePrefix ++ (owner.chars ++ [dot])) (segmentName owner i) =
            true := fun h => ((matchesGlob_rolled owner owner i).mp h).2 hi
        rw [if_neg hglob, hi]
        simp
      · have hglob := (matchesGlob_rolled owner owner i).mpr ⟨rfl, hi⟩
        simp [hi, hglob]
    · have hglob : ¬ matchesGlob (filePrefix ++ (run.chars ++ [dot])) (segmentName owner i) =
          true := fun h => hown ((matchesGlob_rolled run owner i).mp h).1
      rw [if_neg hglob, if_neg hown]

end Shown

/-! ## The operations on one run -/

section Operations

variable {τ : Type*} {digits : DecimalDigits} {dir : Recordings τ} {run : RunId} {files : RunFiles}

/-- The directory shows these files of the run. -/
structure Shows (digits : DecimalDigits) (dir : Recordings τ) (run : RunId) (files : RunFiles) :
    Prop where
  named : Named dir.entries
  entries : shown digits run dir.entries = files.entries

lemma named_assign {es : List (PyStr × Recording τ)} (hes : Named es) (idx : ℕ)
    (file : Recording τ) : Named (Dict.assign es (segmentName run idx) file) := by
  intro e he
  have hkey : e.1 ∈ (Dict.assign es (segmentName run idx) file).map Prod.fst :=
    List.mem_map_of_mem he
  rw [Dict.keys_assign] at hkey
  split_ifs at hkey with hmem
  · obtain ⟨e', he', heq⟩ := List.mem_map.mp hkey
    rw [← heq]
    exact hes e' he'
  · rcases List.mem_append.mp hkey with hold | hnew
    · obtain ⟨e', he', heq⟩ := List.mem_map.mp hold
      rw [← heq]
      exact hes e' he'
    · exact ⟨run, idx, List.mem_singleton.mp hnew⟩

lemma Shows.get? (h : Shows digits dir run files) (idx : ℕ) :
    (dir.get? (segmentName run idx)).map Recording.bytes = files.get? idx := by
  unfold Dict.get?
  rw [← find_shown run idx h.named, h.entries]

/-- Writing a segment of the run. -/
lemma Shows.set (h : Shows digits dir run files) (idx : ℕ) (file : Recording τ) :
    Shows digits (dir.set (segmentName run idx) file) run (files.set idx file.bytes) where
  named := named_assign h.named idx file
  entries := by
    show shown digits run (Dict.assign _ _ _) = Dict.assign _ _ _
    rw [shown_assign run run idx file h.named, if_pos rfl, h.entries]

/-- Writing a segment of another run. -/
lemma Shows.set_other (h : Shows digits dir run files) {other : RunId} (hne : other ≠ run)
    (idx : ℕ) (file : Recording τ) :
    Shows digits (dir.set (segmentName other idx) file) run files where
  named := named_assign h.named idx file
  entries := by
    show shown digits run (Dict.assign _ _ _) = _
    rw [shown_assign run other idx file h.named, if_neg hne, h.entries]

lemma Named.filter {es : List (PyStr × Recording τ)} (hes : Named es)
    (p : PyStr × Recording τ → Bool) : Named (es.filter p) := fun e he =>
  hes e (List.mem_of_mem_filter he)

/-- Deleting a segment of the run. -/
lemma Shows.erase (h : Shows digits dir run files) (idx : ℕ) :
    Shows digits (dir.erase (segmentName run idx)) run (files.erase idx) where
  named := h.named.filter _
  entries := by
    have hkeep : ∀ (i : ℕ) (file : Recording τ), (segmentName run i, file) ∈ dir.entries →
        decide (segmentName run i ≠ segmentName run idx) = decide (i ≠ idx) := by
      intro i file _
      refine decide_eq_decide.mpr (not_congr ?_)
      rw [segmentName_inj digits]
      exact and_iff_right rfl
    show shown digits run (dir.entries.filter fun e => decide (e.1 ≠ segmentName run idx)) =
      files.entries.filter fun e => decide (e.1 ≠ idx)
    rw [shown_filter run _ (fun i => decide (i ≠ idx)) h.named hkeep, h.entries]

/-- Deleting a segment of another run. -/
lemma Shows.erase_other (h : Shows digits dir run files) {other : RunId} (hne : other ≠ run)
    (idx : ℕ) : Shows digits (dir.erase (segmentName other idx)) run files where
  named := h.named.filter _
  entries := by
    have hkeep : ∀ (i : ℕ) (file : Recording τ), (segmentName run i, file) ∈ dir.entries →
        decide (segmentName run i ≠ segmentName other idx) = true := by
      intro i file _
      refine decide_eq_true fun hname => hne ?_
      exact ((segmentName_inj digits).mp hname).1.symm
    show shown digits run (dir.entries.filter fun e => decide (e.1 ≠ segmentName other idx)) = _
    rw [shown_filter run _ (fun _ => true) h.named hkeep, h.entries, List.filter_eq_self]
    intro _ _
    rfl

lemma currentName_eq (run : RunId) : currentName run = segmentName run 0 := rfl

lemma Shows.nextSegment (h : Shows digits dir run files) :
    nextSegment digits run dir = nextIdx files := by
  unfold WebBridge.nextSegment WebBridge.nextIdx
  rw [rolled_shown run h.named, h.entries]

lemma rolledName_succ (run : RunId) (n : ℕ) :
    rolledName run (n + 1) = segmentName run (n + 1) := (if_neg (Nat.succ_ne_zero n)).symm

/-- Rolling over. -/
lemma Shows.rotateFile (h : Shows digits dir run files) :
    Shows digits (rotateFile digits run dir) run (rotate files) := by
  have hget := h.get? 0
  rw [← currentName_eq] at hget
  unfold WebBridge.rotateFile rotate
  cases hfile : dir.get? (currentName run) with
  | none =>
    rw [hfile] at hget
    rw [← hget]
    exact h
  | some file =>
    rw [hfile] at hget
    rw [← hget, h.nextSegment, nextIdx, rolledName_succ]
    exact (h.erase 0).set (nextIdx files) file

/-- Making room for a line. -/
lemma Shows.makeRoomFor (h : Shows digits dir run files) (maxBytes : ℤ) (line : ByteArray) :
    Shows digits (makeRoomFor digits maxBytes run dir line) run (makeRoom maxBytes files line) := by
  have hsize : ((dir.get? (currentName run)).map fun file => file.bytes.size).getD 0 =
      ((files.get? 0).map ByteArray.size).getD 0 := by
    rw [currentName_eq, ← h.get? 0, Option.map_map]
    rfl
  unfold WebBridge.makeRoomFor makeRoom
  dsimp only
  rw [hsize]
  split_ifs
  · exact h.rotateFile
  · exact h

/-- **Appending a line.**  The run's files become those that the run alone would have. -/
lemma Shows.appendFile (h : Shows digits dir run files) (maxBytes : ℤ) (line written : ByteArray)
    (now : τ) :
    Shows digits (appendFile digits maxBytes run dir line written now) run
      (appendBytes maxBytes files line written) := by
  have hroom := h.makeRoomFor maxBytes line
  have hold := hroom.get? 0
  rw [← currentName_eq] at hold
  unfold WebBridge.appendFile writeFile appendBytes writeBytes Dict.getD
  rw [← hold]
  exact hroom.set 0 _

/-- What is written for one run leaves the files of every other as they are. -/
lemma Shows.appendFile_other (h : Shows digits dir run files) {other : RunId} (hne : other ≠ run)
    (maxBytes : ℤ) (line written : ByteArray) (now : τ) :
    Shows digits (WebBridge.appendFile digits maxBytes other dir line written now) run files := by
  have hrotate : Shows digits (WebBridge.rotateFile digits other dir) run files := by
    unfold WebBridge.rotateFile
    split
    · exact h
    · next file _ =>
      have herase : Shows digits (dir.erase (currentName other)) run files := h.erase_other hne 0
      rw [WebBridge.nextSegment, rolledName_succ]
      exact herase.set_other hne _ file
  have hroom : Shows digits (WebBridge.makeRoomFor digits maxBytes other dir line) run files := by
    unfold WebBridge.makeRoomFor
    dsimp only
    split_ifs
    · exact hrotate
    · exact h
  exact hroom.set_other hne 0 _

end Operations

/-! ## The archive -/

section Retention

variable {τ : Type*} [LinearOrder τ]

/-- A line that was appended: its bytes, those of them that reached the disk, and when. -/
structure Appended (τ : Type*) where
  line : ByteArray
  written : ByteArray
  now : τ

/-- What the directory is for: it keeps the lines of some runs. -/
abbrev Archive (τ : Type*) := RunId → List (Appended τ)

/-- The files of a run that has the directory for itself. -/
def filesOf (maxBytes : ℤ) (lines : List (Appended τ)) : RunFiles :=
  lines.foldl (fun files a => appendBytes maxBytes files a.line a.written) Dict.empty

/-- What happens in the directory: some gateway starts a run, or appends a line to its run. -/
inductive RecordingEvent (τ : Type*)
  | start (runId : PyStr)
  | append (runId : PyStr) (line written : ByteArray) (now : τ)

/-- When a line was appended. -/
def RecordingEvent.time? : RecordingEvent τ → Option τ
  | .start _ => none
  | .append _ _ _ now => some now

/-- How many runs are kept besides the one that is started. -/
def otherRuns (maxRuns : ℤ) : ℕ := (max (maxRuns - 1) 0).toNat

/-- The start of a run keeps these others: no more than there is room for, and none is given up
for an older one. -/
structure Keeps (maxRuns : ℤ) (run : RunId) (A : Archive τ) (kept : Finset RunId) : Prop where
  others : ∀ r ∈ kept, r ≠ run ∧ A r ≠ []
  bounded : kept.card ≤ otherRuns maxRuns
  newest : ∀ r, r ≠ run → A r ≠ [] → r ∉ kept → kept.card = otherRuns maxRuns ∧
    ∀ q ∈ kept, ∀ a ∈ (A r).getLast?, ∀ b ∈ (A q).getLast?, a.now ≤ b.now

/-- What the archive keeps after a history: a line is added to its run, and a start forgets whole
runs. -/
inductive Archives (maxRuns : ℤ) : List (RecordingEvent τ) → Archive τ → Prop
  | empty : Archives maxRuns [] fun _ => []
  | start {past : List (RecordingEvent τ)} {A : Archive τ} (runId : PyStr) (kept : Finset RunId)
      (hpast : Archives maxRuns past A) (hkeeps : Keeps maxRuns (safeRunId runId) A kept) :
      Archives maxRuns (past ++ [.start runId]) fun r =>
        if r = safeRunId runId ∨ r ∈ kept then A r else []
  | append {past : List (RecordingEvent τ)} {A : Archive τ} (runId : PyStr)
      (line written : ByteArray) (now : τ) (hpast : Archives maxRuns past A) :
      Archives maxRuns (past ++ [.append runId line written now])
        (Function.update A (safeRunId runId) (A (safeRunId runId) ++ [⟨line, written, now⟩]))

variable (digits : DecimalDigits) (maxBytes maxRuns : ℤ)

/-- The directory, with all that the gateways do to it. -/
def recordings : Machine (Recordings τ) (RecordingEvent τ) Unit where
  step dir
    | .start runId => (enforceRetention digits maxRuns (safeRunId runId) dir, ())
    | .append runId line written now =>
      (appendFile digits maxBytes (safeRunId runId) dir line written now, ())

/-- How the directory hangs together with the archive. -/
structure Represents (past : List (RecordingEvent τ)) (dir : Recordings τ) (A : Archive τ) :
    Prop where
  shows : ∀ run, Shows digits dir run (filesOf maxBytes (A run))
  current : ∀ run file, dir.get? (currentName run) = some file →
    ∃ a ∈ (A run).getLast?, file.mtime = a.now
  modified : ∀ run idx file, dir.get? (segmentName run idx) = some file →
    ∃ a ∈ (A run).getLast?, file.mtime ≤ a.now
  past : ∀ run, ∀ a ∈ A run, a.now ∈ past.filterMap RecordingEvent.time?

variable {digits maxBytes maxRuns} {past : List (RecordingEvent τ)} {dir : Recordings τ}
  {A : Archive τ}

omit [LinearOrder τ] in
lemma filesOf_concat (lines : List (Appended τ)) (a : Appended τ) :
    filesOf maxBytes (lines ++ [a]) = appendBytes maxBytes (filesOf maxBytes lines) a.line a.written := by
  unfold filesOf
  rw [List.foldl_append]
  rfl

omit [LinearOrder τ] in
/-- A run with lines has a current file. -/
lemma exists_current (maxBytes : ℤ) {lines : List (Appended τ)} (h : lines ≠ []) :
    ∃ bytes, (filesOf maxBytes lines).get? 0 = some bytes := by
  obtain ⟨init, a, rfl⟩ := (List.eq_nil_or_concat lines).resolve_left h
  rw [List.concat_eq_append, filesOf_concat]
  exact ⟨_, Dict.get?_set_self _ _ _⟩

/-- A run has files exactly when it has lines. -/
lemma Represents.exists_iff (h : Represents digits maxBytes past dir A) (run : RunId) :
    (∃ idx file, dir.get? (segmentName run idx) = some file) ↔ A run ≠ [] := by
  constructor
  · rintro ⟨idx, file, hfile⟩ hnil
    obtain ⟨a, ha, -⟩ := h.modified run idx file hfile
    rw [hnil] at ha
    cases ha
  · intro hne
    obtain ⟨bytes, hbytes⟩ := exists_current maxBytes hne
    rw [← (h.shows run).get? 0, Option.map_eq_some_iff] at hbytes
    obtain ⟨file, hfile, -⟩ := hbytes
    exact ⟨0, file, hfile⟩

omit [LinearOrder τ] in
/-- A file that is there after an append is the current one of the run, or was there before. -/
lemma get?_appendFile {run other : RunId} {line written : ByteArray} {now : τ} (idx : ℕ)
    {file : Recording τ}
    (h : (appendFile digits maxBytes run dir line written now).get? (segmentName other idx) =
      some file) :
    (other = run ∧ file.mtime = now) ∨ dir.get? (segmentName other idx) = some file ∨
      (other = run ∧ idx ≠ 0 ∧ dir.get? (currentName run) = some file) := by
  unfold appendFile writeFile at h
  rw [Dict.get?_set] at h
  split_ifs at h with hname
  · rw [currentName_eq, segmentName_inj digits] at hname
    rw [← Option.some.inj h]
    exact .inl ⟨hname.1, rfl⟩
  · right
    unfold makeRoomFor at h
    dsimp only at h
    split_ifs at h
    · unfold rotateFile at h
      split at h
      · exact .inl h
      · next current hcurrent =>
        rw [Dict.get?_set, Dict.get?_erase, if_neg hname] at h
        split_ifs at h with hrolled
        · rw [nextSegment, rolledName_succ, segmentName_inj digits] at hrolled
          obtain ⟨rfl, rfl⟩ := hrolled
          rw [← Option.some.inj h]
          exact .inr ⟨rfl, Nat.succ_ne_zero _, hcurrent⟩
        · exact .inl h
    · exact .inl h

omit [LinearOrder τ] in
/-- The current file of the run was written just now. -/
lemma mtime_appendFile {run : RunId} {line written : ByteArray} {now : τ} {file : Recording τ}
    (h : (appendFile digits maxBytes run dir line written now).get? (currentName run) =
      some file) : file.mtime = now := by
  unfold appendFile writeFile at h
  rw [Dict.get?_set_self] at h
  rw [← Option.some.inj h]

/-- **Append.**  A line that is written for one run is added to that run of the archive. -/
lemma Represents.append (h : Represents digits maxBytes past dir A) (runId : PyStr)
    (line written : ByteArray) (now : τ)
    (hclock : ∀ t ∈ past.filterMap RecordingEvent.time?, t ≤ now) :
    Represents digits maxBytes (past ++ [.append runId line written now])
      (appendFile digits maxBytes (safeRunId runId) dir line written now)
      (Function.update A (safeRunId runId) (A (safeRunId runId) ++ [⟨line, written, now⟩])) := by
  generalize safeRunId runId = run
  have htimes : (past ++ [RecordingEvent.append runId line written now]).filterMap RecordingEvent.time? =
      past.filterMap RecordingEvent.time? ++ [now] := by
    rw [List.filterMap_append]
    rfl
  -- a run that had lines already was changed no later than now
  have hlast : ∀ r, ∀ a ∈ (A r).getLast?, a.now ≤ now := fun r a ha =>
    hclock a.now (h.past r a (List.mem_of_getLast? ha))
  refine ⟨fun other => ?_, fun other file hfile => ?_, fun other idx file hfile => ?_,
    fun other a ha => ?_⟩
  · by_cases hother : other = run
    · subst hother
      rw [Function.update_self, filesOf_concat]
      exact (h.shows other).appendFile maxBytes line written now
    · rw [Function.update_of_ne hother]
      exact (h.shows other).appendFile_other (Ne.symm hother) maxBytes line written now
  · by_cases hother : other = run
    · subst hother
      refine ⟨⟨line, written, now⟩, ?_, mtime_appendFile hfile⟩
      rw [Function.update_self, List.getLast?_concat]
      exact rfl
    · rw [Function.update_of_ne hother]
      rcases get?_appendFile 0 hfile with ⟨heq, -⟩ | hold | ⟨heq, -⟩
      · exact absurd heq hother
      · exact h.current other file hold
      · exact absurd heq hother
  · by_cases hother : other = run
    · subst hother
      refine ⟨⟨line, written, now⟩, ?_, ?_⟩
      · rw [Function.update_self, List.getLast?_concat]
        exact rfl
      · rcases get?_appendFile idx hfile with ⟨-, hnow⟩ | hold | ⟨-, -, hcurrent⟩
        · exact hnow.le
        · obtain ⟨a, ha, hle⟩ := h.modified other idx file hold
          exact hle.trans (hlast other a ha)
        · obtain ⟨a, ha, heq⟩ := h.current other file hcurrent
          exact heq.le.trans (hlast other a ha)
    · rw [Function.update_of_ne hother]
      rcases get?_appendFile idx hfile with ⟨heq, -⟩ | hold | ⟨heq, -⟩
      · exact absurd heq hother
      · exact h.modified other idx file hold
      · exact absurd heq hother
  · rw [htimes, List.mem_append]
    by_cases hother : other = run
    · subst hother
      rw [Function.update_self, List.mem_append, List.mem_singleton] at ha
      rcases ha with hold | rfl
      · exact .inl (h.past other a hold)
      · exact .inr (List.mem_singleton_self _)
    · rw [Function.update_of_ne hother] at ha
      exact .inl (h.past other a ha)

/-! ## Starting a run -/

omit [LinearOrder τ] in
/-- The run a file is grouped under. -/
lemma group_segmentName (digits : DecimalDigits) (run : RunId) (idx : ℕ) :
    (if matchesGlob filePrefix (segmentName run idx) then
      (parseSegment digits (segmentName run idx)).map Prod.fst else none) = some run.chars := by
  rw [if_pos (matchesGlob_starts run idx), parseSegment_segmentName]
  rfl

omit [LinearOrder τ] in
/-- The files grouped under a run are its segments. -/
lemma mem_byRun (hnamed : Named dir.entries) (run : RunId) (e : PyStr × Recording τ) :
    e ∈ (byRun digits dir).getD run.chars [] ↔
      ∃ idx, e.1 = segmentName run idx ∧ dir.get? (segmentName run idx) = some e.2 := by
  have hgroup : (byRun digits dir).getD run.chars [] = dir.entries.filter fun e =>
      (if matchesGlob filePrefix e.1 then (parseSegment digits e.1).map Prod.fst else none) =
        some run.chars := by
    unfold Dict.getD byRun
    rw [Dict.get?_groupBy]
    split_ifs with hnil
    · exact hnil.symm
    · rw [List.map_id]
      rfl
  obtain ⟨name, file⟩ := e
  rw [hgroup, List.mem_filter, decide_eq_true_eq]
  constructor
  · rintro ⟨hmem, hkey⟩
    obtain ⟨other, idx, rfl⟩ := hnamed _ hmem
    rw [group_segmentName, Option.some.injEq] at hkey
    obtain rfl : other = run := RunId.ext hkey
    exact ⟨idx, rfl, (dir.mem_entries_iff).mp hmem⟩
  · rintro ⟨idx, rfl, hfile⟩
    exact ⟨(dir.mem_entries_iff).mpr hfile, group_segmentName digits run idx⟩

omit [LinearOrder τ] in
lemma mem_groups (hnamed : Named dir.entries) (chars : PyStr) :
    chars ∈ (byRun digits dir).entries.map Prod.fst ↔
      ∃ run : RunId, run.chars = chars ∧
        ∃ idx file, dir.get? (segmentName run idx) = some file := by
  have hkey : chars ∈ (byRun digits dir).entries.map Prod.fst ↔
      dir.entries.filter (fun e =>
        (if matchesGlob filePrefix e.1 then (parseSegment digits e.1).map Prod.fst else none) =
          some chars) ≠ [] := by
    rw [Dict.mem_keys_iff, byRun, Dict.get?_groupBy]
    split_ifs with hnil <;> simp [hnil]
  rw [hkey]
  constructor
  · intro hne
    obtain ⟨⟨name, file⟩, hmem⟩ := List.exists_mem_of_ne_nil _ hne
    rw [List.mem_filter, decide_eq_true_eq] at hmem
    obtain ⟨run, idx, rfl⟩ := hnamed _ hmem.1
    refine ⟨run, ?_, idx, file, (dir.mem_entries_iff).mp hmem.1⟩
    exact Option.some.inj ((group_segmentName digits run idx).symm.trans hmem.2)
  · rintro ⟨run, rfl, idx, file, hfile⟩
    refine List.ne_nil_of_mem (a := (segmentName run idx, file)) (List.mem_filter.mpr ⟨?_, ?_⟩)
    · exact (dir.mem_entries_iff).mpr hfile
    · exact decide_eq_true (group_segmentName digits run idx)

/-- A run was changed last when its last line was appended. -/
lemma Represents.lastModified (h : Represents digits maxBytes past dir A) {run : RunId}
    {a : Appended τ} (ha : a ∈ (A run).getLast?) :
    lastModified (byRun digits dir) run.chars = (a.now : WithBot τ) := by
  unfold WebBridge.lastModified
  apply le_antisymm
  · apply List.max_le_of_forall_le
    intro x hx
    obtain ⟨e, he, rfl⟩ := List.mem_map.mp hx
    obtain ⟨idx, -, hfile⟩ := (mem_byRun (h.shows run).named run e).mp he
    obtain ⟨b, hb, hle⟩ := h.modified run idx e.2 hfile
    rw [Option.mem_unique ha hb]
    exact WithBot.coe_le_coe.mpr hle
  · have hne : A run ≠ [] := by
      rintro hnil
      rw [hnil] at ha
      cases ha
    obtain ⟨bytes, hbytes⟩ := exists_current maxBytes hne
    rw [← (h.shows run).get? 0, Option.map_eq_some_iff] at hbytes
    obtain ⟨file, hfile, -⟩ := hbytes
    obtain ⟨b, hb, heq⟩ := h.current run file hfile
    have hmem : ((segmentName run 0, file).2.mtime : WithBot τ) ∈
        ((byRun digits dir).getD run.chars []).map fun e => (e.2.mtime : WithBot τ) :=
      List.mem_map_of_mem ((mem_byRun (h.shows run).named run _).mpr ⟨0, rfl, hfile⟩)
    refine List.le_max_of_le hmem ?_
    rw [Option.mem_unique ha hb, ← heq]

omit [LinearOrder τ] in
/-- Deleting files one after another. -/
lemma entries_foldl_erase (names : List PyStr) (dir : Recordings τ) :
    (names.foldl Dict.erase dir).entries = dir.entries.filter fun e => decide (e.1 ∉ names) := by
  induction names generalizing dir with
  | nil => simp
  | cons name names ih =>
    rw [List.foldl_cons, ih]
    show (dir.entries.filter fun e => decide (e.1 ≠ name)).filter _ = _
    rw [List.filter_filter]
    refine List.filter_congr fun e _ => ?_
    simp only [List.mem_cons, not_or, Bool.decide_and]
    exact Bool.and_comm _ _

/-- The runs other than the one that is started, newest first. -/
def othersByAge (digits : DecimalDigits) (run : RunId) (dir : Recordings τ) : List PyStr :=
  sortBy (fun chars => OrderDual.toDual (lastModified (byRun digits dir) chars))
    (((byRun digits dir).entries.map Prod.fst).filter fun chars => chars ≠ run.chars)

lemma staleRuns_eq (run : RunId) :
    staleRuns digits maxRuns run dir = (othersByAge digits run dir).drop (otherRuns maxRuns) := rfl

lemma nodup_othersByAge (run : RunId) : (othersByAge digits run dir).Nodup :=
  (perm_sortBy _ _).nodup_iff.mpr ((byRun digits dir).nodup.filter _)

lemma Represents.mem_othersByAge (h : Represents digits maxBytes past dir A) (run : RunId)
    (chars : PyStr) : chars ∈ othersByAge digits run dir ↔
      ∃ r : RunId, r.chars = chars ∧ r ≠ run ∧ A r ≠ [] := by
  unfold othersByAge
  rw [(perm_sortBy _ _).mem_iff, List.mem_filter, decide_eq_true_eq,
    mem_groups (h.shows run).named]
  constructor
  · rintro ⟨⟨r, rfl, hfile⟩, hne⟩
    exact ⟨r, rfl, fun heq => hne (by rw [heq]), (h.exists_iff r).mp hfile⟩
  · rintro ⟨r, rfl, hne, hlines⟩
    exact ⟨⟨r, rfl, (h.exists_iff r).mpr hlines⟩, fun heq => hne (RunId.ext heq)⟩

/-- The runs that are kept besides the one that is started. -/
noncomputable def keptRuns (digits : DecimalDigits) (maxRuns : ℤ) (run : RunId)
    (dir : Recordings τ) : Finset RunId :=
  ((othersByAge digits run dir).take (otherRuns maxRuns)).toFinset.preimage RunId.chars
    RunId.chars_injective.injOn

lemma mem_keptRuns {run r : RunId} : r ∈ keptRuns digits maxRuns run dir ↔
    r.chars ∈ (othersByAge digits run dir).take (otherRuns maxRuns) := by
  unfold keptRuns
  rw [Finset.mem_preimage, List.mem_toFinset]

/-- As many runs are kept as there is room for, if there are so many. -/
lemma Represents.card_keptRuns (h : Represents digits maxBytes past dir A) (run : RunId) :
    (keptRuns digits maxRuns run dir).card =
      min (otherRuns maxRuns) (othersByAge digits run dir).length := by
  have himage : (keptRuns digits maxRuns run dir).image RunId.chars =
      ((othersByAge digits run dir).take (otherRuns maxRuns)).toFinset := by
    ext chars
    rw [Finset.mem_image, List.mem_toFinset]
    constructor
    · rintro ⟨r, hr, rfl⟩
      exact mem_keptRuns.mp hr
    · intro hmem
      obtain ⟨r, rfl, -, -⟩ := (h.mem_othersByAge run chars).mp (List.mem_of_mem_take hmem)
      exact ⟨r, mem_keptRuns.mpr hmem, rfl⟩
  rw [← Finset.card_image_of_injective _ RunId.chars_injective, himage,
    List.toFinset_card_of_nodup ((nodup_othersByAge run).sublist (List.take_sublist _ _)),
    List.length_take]

/-- The newest runs are kept. -/
lemma Represents.keeps (h : Represents digits maxBytes past dir A) (run : RunId) :
    Keeps maxRuns run A (keptRuns digits maxRuns run dir) where
  others r hr := by
    obtain ⟨q, hq, hne, hlines⟩ :=
      (h.mem_othersByAge run r.chars).mp (List.mem_of_mem_take (mem_keptRuns.mp hr))
    rw [← RunId.ext hq]
    exact ⟨hne, hlines⟩
  bounded := by
    rw [h.card_keptRuns run]
    exact Nat.min_le_left _ _
  newest r hne hlines hr := by
    have hmem : r.chars ∈ (othersByAge digits run dir).drop (otherRuns maxRuns) := by
      have hall := (h.mem_othersByAge run r.chars).mpr ⟨r, rfl, hne, hlines⟩
      rw [← List.take_append_drop (otherRuns maxRuns) (othersByAge digits run dir),
        List.mem_append] at hall
      exact hall.resolve_left fun htake => hr (mem_keptRuns.mpr htake)
    have hlong : otherRuns maxRuns ≤ (othersByAge digits run dir).length := by
      have hpos := List.length_pos_of_mem hmem
      rw [List.length_drop] at hpos
      omega
    refine ⟨by rw [h.card_keptRuns run, Nat.min_eq_left hlong], fun q hq a ha b hb => ?_⟩
    have hsorted : (othersByAge digits run dir).Pairwise fun c d =>
        OrderDual.toDual (WebBridge.lastModified (byRun digits dir) c) ≤
          OrderDual.toDual (WebBridge.lastModified (byRun digits dir) d) := pairwise_sortBy _ _
    rw [← List.take_append_drop (otherRuns maxRuns) (othersByAge digits run dir),
      List.pairwise_append] at hsorted
    have hle := hsorted.2.2 q.chars (mem_keptRuns.mp hq) r.chars hmem
    rw [OrderDual.toDual_le_toDual, h.lastModified ha, h.lastModified hb] at hle
    exact WithBot.coe_le_coe.mp hle

/-- A run is pruned when it is neither started nor kept. -/
lemma Represents.mem_staleRuns (h : Represents digits maxBytes past dir A) (run r : RunId) :
    r.chars ∈ staleRuns digits maxRuns run dir ↔
      r ≠ run ∧ A r ≠ [] ∧ r ∉ keptRuns digits maxRuns run dir := by
  rw [staleRuns_eq, mem_keptRuns]
  have hsplit := List.take_append_drop (otherRuns maxRuns) (othersByAge digits run dir)
  constructor
  · intro hmem
    obtain ⟨q, hq, hne, hlines⟩ := (h.mem_othersByAge run r.chars).mp (List.mem_of_mem_drop hmem)
    rw [RunId.ext hq] at hne hlines
    refine ⟨hne, hlines, fun htake => ?_⟩
    exact List.disjoint_take_drop (nodup_othersByAge run) (le_refl (otherRuns maxRuns)) htake hmem
  · rintro ⟨hne, hlines, hkept⟩
    have hall := (h.mem_othersByAge run r.chars).mpr ⟨r, rfl, hne, hlines⟩
    rw [← hsplit, List.mem_append] at hall
    exact hall.resolve_left hkept

/-- A file is deleted when its run is pruned. -/
lemma Represents.mem_pruned (h : Represents digits maxBytes past dir A) (run r : RunId) (idx : ℕ)
    {file : Recording τ} (hfile : dir.get? (segmentName r idx) = some file) :
    segmentName r idx ∈ ((staleRuns digits maxRuns run dir).flatMap fun chars =>
      ((byRun digits dir).getD chars []).map Prod.fst) ↔
        r.chars ∈ staleRuns digits maxRuns run dir := by
  have hnamed := (h.shows run).named
  rw [List.mem_flatMap]
  constructor
  · rintro ⟨chars, hchars, hname⟩
    obtain ⟨e, he, heq⟩ := List.mem_map.mp hname
    obtain ⟨q, rfl, -, -⟩ :=
      (h.mem_othersByAge run chars).mp (List.mem_of_mem_drop hchars)
    obtain ⟨j, hj, -⟩ := (mem_byRun hnamed q e).mp he
    obtain ⟨rfl, -⟩ := (segmentName_inj digits).mp (hj.symm.trans heq)
    exact hchars
  · intro hstale
    have hgroup : (segmentName r idx, file) ∈ (byRun digits dir).getD r.chars [] :=
      (mem_byRun hnamed r _).mpr ⟨idx, rfl, hfile⟩
    exact ⟨r.chars, hstale, List.mem_map.mpr ⟨_, hgroup, rfl⟩⟩

/-- **Start.**  The start of a run forgets whole runs. -/
lemma Represents.start (h : Represents digits maxBytes past dir A) (runId : PyStr) :
    Represents digits maxBytes (past ++ [.start runId])
      (enforceRetention digits maxRuns (safeRunId runId) dir) fun r =>
        if r = safeRunId runId ∨ r ∈ keptRuns digits maxRuns (safeRunId runId) dir then A r
        else [] := by
  generalize safeRunId runId = run
  have hentries : (enforceRetention digits maxRuns run dir).entries =
      dir.entries.filter fun e => decide (e.1 ∉ (staleRuns digits maxRuns run dir).flatMap
        fun chars => ((byRun digits dir).getD chars []).map Prod.fst) := entries_foldl_erase _ _
  have hget : ∀ (r : RunId) (idx : ℕ) (file : Recording τ),
      (enforceRetention digits maxRuns run dir).get? (segmentName r idx) = some file →
        dir.get? (segmentName r idx) = some file ∧
          r.chars ∉ staleRuns digits maxRuns run dir := by
    intro r idx file hfile
    rw [← Dict.mem_entries_iff, hentries, List.mem_filter, decide_eq_true_eq,
      Dict.mem_entries_iff] at hfile
    exact ⟨hfile.1, fun hstale => hfile.2 ((h.mem_pruned run r idx hfile.1).mpr hstale)⟩
  -- what a run that is not pruned had, it still has
  have hlines : ∀ r : RunId, r.chars ∉ staleRuns digits maxRuns run dir →
      (if r = run ∨ r ∈ keptRuns digits maxRuns run dir then A r else []) = A r := by
    intro r hr
    rw [h.mem_staleRuns run r] at hr
    split_ifs with hkept
    · rfl
    · rw [not_or] at hkept
      by_contra hne
      exact hr ⟨hkept.1, Ne.symm hne, hkept.2⟩
  refine ⟨fun r => ?_, fun r file hfile => ?_, fun r idx file hfile => ?_, fun r a ha => ?_⟩
  · have hkeep : ∀ idx file, (segmentName r idx, file) ∈ dir.entries →
        decide (segmentName r idx ∉ (staleRuns digits maxRuns run dir).flatMap fun chars =>
          ((byRun digits dir).getD chars []).map Prod.fst) =
            decide (r.chars ∉ staleRuns digits maxRuns run dir) := by
      intro idx file hfile
      exact decide_eq_decide.mpr
        (not_congr (h.mem_pruned run r idx ((dir.mem_entries_iff).mp hfile)))
    refine ⟨hentries ▸ (h.shows r).named.filter _, ?_⟩
    rw [hentries, shown_filter r _ (fun _ => decide (r.chars ∉ staleRuns digits maxRuns run dir))
      (h.shows r).named hkeep, (h.shows r).entries]
    by_cases hstale : r.chars ∈ staleRuns digits maxRuns run dir
    · obtain ⟨hne, -, hkept⟩ := (h.mem_staleRuns run r).mp hstale
      rw [if_neg (not_or.mpr ⟨hne, hkept⟩), decide_eq_false (not_not.mpr hstale), List.filter_false]
      rfl
    · rw [hlines r hstale, decide_eq_true hstale, List.filter_true]
  · obtain ⟨hold, hstale⟩ := hget r 0 file hfile
    rw [hlines r hstale]
    exact h.current r file hold
  · obtain ⟨hold, hstale⟩ := hget r idx file hfile
    rw [hlines r hstale]
    exact h.modified r idx file hold
  · rw [List.filterMap_append, List.mem_append]
    split_ifs at ha
    · exact .inl (h.past r a ha)
    · cases ha

variable (digits) in
/-- **Run.**  Every history of the directory is one of an archive. -/
lemma represents_run (es : List (RecordingEvent τ))
    (hclock : (es.filterMap RecordingEvent.time?).Pairwise (· ≤ ·)) :
    ∃ A, Archives maxRuns es A ∧ Represents digits maxBytes es
      ((recordings digits maxBytes maxRuns).run Dict.empty es) A := by
  induction es using List.reverseRecOn with
  | nil =>
    refine ⟨fun _ => [], .empty, ?_, ?_, ?_, ?_⟩
    · exact fun run => ⟨fun e he => absurd he List.not_mem_nil, rfl⟩
    · intro run file hfile
      cases hfile
    · intro run idx file hfile
      cases hfile
    · intro run a ha
      cases ha
  | append_singleton past e ih =>
    rw [List.filterMap_append, List.pairwise_append] at hclock
    obtain ⟨A, harchives, hrepresents⟩ := ih hclock.1
    rw [Machine.run_concat]
    cases e with
    | start runId =>
      exact ⟨_, harchives.start runId _ (hrepresents.keeps (safeRunId runId)),
        hrepresents.start runId⟩
    | append runId line written now =>
      refine ⟨_, harchives.append runId line written now, hrepresents.append runId line written now
        fun t ht => ?_⟩
      exact hclock.2.2 t ht now List.mem_cons_self

variable (digits maxBytes maxRuns) in
/-- **The directory is an archive of whole runs.**  Take any interleaving of starts and appends of
any number of gateways, with a clock that never goes back.  There is an archive that adds each line
to its run and, when a run is started, forgets whole runs alone, none of them newer than a run it
keeps and none while there is room; and what the directory shows of a run are the files of the
lines the archive has for it, as if the run had the directory for itself.  So a replay of a run
reads these lines and no others, and a run has files exactly when the archive has lines for it. -/
theorem recordings_archive (es : List (RecordingEvent τ))
    (hclock : (es.filterMap RecordingEvent.time?).Pairwise (· ≤ ·)) :
    ∃ A, Archives maxRuns es A ∧ ∀ run : RunId,
      segments digits run ((recordings digits maxBytes maxRuns).run Dict.empty es) =
          (filesOf maxBytes (A run)).entries ∧
        (∀ (α : Type) (scan : JsonScan α) (r : Replay),
          readSince digits scan run ((recordings digits maxBytes maxRuns).run Dict.empty es) r =
            iterSince scan (filesOf maxBytes (A run)) r) ∧
        ((∃ idx file, ((recordings digits maxBytes maxRuns).run Dict.empty es).get?
          (segmentName run idx) = some file) ↔ A run ≠ []) := by
  obtain ⟨A, harchives, hrepresents⟩ := represents_run digits es hclock
  refine ⟨A, harchives, fun run => ⟨(hrepresents.shows run).entries, fun α scan r => ?_, ?_⟩⟩
  · unfold readSince iterSince sortedSegments segmentsInOrder
    have hsegments : segments digits run ((recordings digits maxBytes maxRuns).run Dict.empty es) =
        (filesOf maxBytes (A run)).entries := (hrepresents.shows run).entries
    rw [hsegments]
  · exact hrepresents.exists_iff run

end Retention

/-! Room for one run: the start of the second forgets the first. -/

/-- The id of the first run. -/
def firstRun : PyStr := .ofChars "run.1".toList

/-- A line of the first run, and the start of a second one. -/
def secondStart : List (RecordingEvent ℕ) :=
  [.append firstRun ⟨#[10]⟩ ⟨#[10]⟩ 1, .start (.ofChars "run.2".toList)]

lemma entries_secondStart :
    ((recordings Deploy.asciiDigits 8000000 1).run Dict.empty secondStart).entries.length = 0 := by
  decide +kernel

/-- The archive has nothing of the first run then. -/
theorem recordings_archive_pruned :
    ∃ A : Archive ℕ, Archives 1 secondStart A ∧ A (safeRunId firstRun) = [] := by
  obtain ⟨A, harchives, hshown⟩ := recordings_archive Deploy.asciiDigits 8000000 1 secondStart
    (by decide)
  refine ⟨A, harchives, ?_⟩
  by_contra hne
  obtain ⟨idx, file, hfile⟩ := (hshown (safeRunId firstRun)).2.2.mpr hne
  have hmem := ((Dict.mem_entries_iff _).mpr hfile)
  rw [List.eq_nil_of_length_eq_zero entries_secondStart] at hmem
  cases hmem

end WebBridge

end MiniatureWarehouse
