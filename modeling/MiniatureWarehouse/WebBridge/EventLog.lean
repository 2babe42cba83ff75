import Mathlib.Data.List.Sort
import MiniatureWarehouse.WebBridge.ObsEvent

/-!
# The event log of the web gateway

A run's events are lines of JSON in the files of that run.  Segment `0` is the current file;
`append` writes to its end, and rolls it over to the next numbered segment first when the line
would take it past the size limit.  `iterSince` reads the numbered segments in their order and the
current file last, line by line, and passes over what is no JSON.

A file is bytes.  What is appended is encoded text, but what is left after a crash is any first
part of it, so reading a file back may fail to decode.
-/

namespace MiniatureWarehouse

namespace WebBridge

/-- The files of one run, by segment number; `0` is the current one. -/
abbrev RunFiles := Dict ℕ ByteArray

/-- The sort key `(idx == 0, idx)` of a segment, as an order. -/
def ReplaysBefore (a b : ℕ × ByteArray) : Prop := b.1 = 0 ∨ a.1 ≠ 0 ∧ a.1 ≤ b.1

instance : DecidableRel ReplaysBefore := fun _ _ => inferInstanceAs (Decidable (_ ∨ _))

/-- `_segments_in_order`. -/
def segmentsInOrder (files : RunFiles) : List ByteArray :=
  (files.entries.insertionSort ReplaysBefore).map Prod.snd

/-- The number the next rolled segment gets. -/
def nextIdx (files : RunFiles) : ℕ :=
  ((files.entries.map Prod.fst).filter fun idx => idx ≠ 0).foldl max 0 + 1

/-- `_rotate`.  Only a run with a current file is ever rotated. -/
def rotate (files : RunFiles) : RunFiles :=
  match files.get? 0 with
  | none => files
  | some bytes => (files.erase 0).set (nextIdx files) bytes

/-- The first half of `append`: the files as they are when the line is about to be written. -/
def makeRoom (maxBytes : ℤ) (files : RunFiles) (line : ByteArray) : RunFiles :=
  let existing := ((files.get? 0).map ByteArray.size).getD 0
  if 0 < existing ∧ maxBytes < (existing + line.size : ℕ) then rotate files else files

/-- The second half of `append`: the current file is opened for appending. -/
def writeBytes (files : RunFiles) (bytes : ByteArray) : RunFiles :=
  files.set 0 (files.getD 0 ByteArray.empty ++ bytes)

/-- `append` of an encoded line, of which `written` reaches the disk. -/
def appendBytes (maxBytes : ℤ) (files : RunFiles) (line written : ByteArray) : RunFiles :=
  writeBytes (makeRoom maxBytes files line) written

/-- `text.encode("utf-8")`. -/
def encode (text : List Char) : ByteArray := (String.ofList text).toByteArray

lemma encode_eq (text : List Char) : encode text = text.utf8Encode := rfl

/-! ## Reading back -/

/-- The newline translation of a text file that is read. -/
def universalNewlines : List Char → List Char
  | [] => []
  | '\r' :: '\n' :: cs => '\n' :: universalNewlines cs
  | '\r' :: cs => '\n' :: universalNewlines cs
  | c :: cs => c :: universalNewlines cs

/-- `read_text(encoding="utf-8")`: what is not UTF-8 raises a `UnicodeDecodeError`. -/
def readText (bytes : ByteArray) : Except PyErr (List Char) :=
  match bytes.utf8Decode? with
  | none => .error .valueError
  | some cs => .ok (universalNewlines cs.toList)

/-- The range and the kind a replay asks for. -/
structure Replay where
  sinceSeq : ℤ
  toSeq : Option ℤ
  kind : Option String

section Log

variable {α : Type}

/-- The conditions on an event that was read back. -/
def Replay.keeps (r : Replay) (event : PyVal α) : Bool :=
  match event.get? "seq" with
  | some (.int seq) =>
    decide (r.sinceSeq < seq) && r.toSeq.all (fun last => decide (seq ≤ last)) &&
      r.kind.all (fun kind => decide (asOptStr (event.get? "kind") = some kind))
  | _ => false

/-- The body of the loop over the lines of a segment. -/
def replayLine (scan : JsonScan α) (r : Replay) (rawLine : List Char) :
    Except PyErr (Option (PyVal α)) :=
  if rawLine = [] then .ok none
  else
    match scan.loads (String.ofList rawLine) with
    | .error .valueError => .ok none
    | .error .recursionError => .error .recursionError
    | .ok (.dict es) => .ok (if r.keeps (.dict es) then some (.dict es) else none)
    | .ok _ => .error .attributeError

/-- What a segment's text replays. -/
def replayText (scan : JsonScan α) (r : Replay) (text : List Char) :
    Except PyErr (List (PyVal α)) :=
  ((text.splitOn '\n').mapM (replayLine scan r)).map List.reduceOption

/-- `iter_since`, run to its end. -/
def iterSince (scan : JsonScan α) (files : RunFiles) (r : Replay) :
    Except PyErr (List (PyVal α)) :=
  ((segmentsInOrder files).mapM fun bytes => (readText bytes).bind (replayText scan r)).map
    List.flatten

/-- The replay `last_seq` goes through. -/
def Replay.all : Replay := ⟨0, none, none⟩

/-- The body of the loop of `last_seq`, over events with a positive number. -/
def higherSeq (last : ℕ) (event : PyVal α) : ℕ :=
  match event.get? "seq" with
  | some (.int seq) => if (last : ℤ) < seq then seq.toNat else last
  | _ => last

/-- `last_seq`. -/
def lastSeq (scan : JsonScan α) (files : RunFiles) : Except PyErr ℕ :=
  (iterSince scan files Replay.all).map fun events => events.foldl higherSeq 0

/-- The line of an event, as `append` writes it. -/
def lineOf (T : Json.FloatText α) (e : ObsEvent α) : List Char := Json.dumps T e.toVal ++ ['\n']

end Log

/-! ## Where the segments lie -/

/-- The rolled segments are numbered from one in the order in which they were rolled, and the
current file comes after them. -/
def Laid (files : RunFiles) (rolled : List ByteArray) (current : Option ByteArray) : Prop :=
  files.entries = (List.range' 1 rolled.length).zip rolled ++ current.toList.map (Prod.mk 0)

lemma laid_empty : Laid Dict.empty [] none := rfl

section Layout

variable {files : RunFiles} {rolled : List ByteArray} {current : Option ByteArray}

/-- The number of a rolled segment. -/
lemma mem_rolled {entry : ℕ × ByteArray}
    (h : entry ∈ (List.range' 1 rolled.length).zip rolled) :
    1 ≤ entry.1 ∧ entry.1 ≤ rolled.length := by
  have hidx := (List.of_mem_zip h).1
  rw [List.mem_range'_1] at hidx
  omega

lemma map_fst_rolled (rolled : List ByteArray) :
    ((List.range' 1 rolled.length).zip rolled).map Prod.fst = List.range' 1 rolled.length :=
  List.map_fst_zip (by simp)

lemma map_snd_rolled (rolled : List ByteArray) :
    ((List.range' 1 rolled.length).zip rolled).map Prod.snd = rolled :=
  List.map_snd_zip (by simp)

/-- The entries are in replay order already. -/
lemma Laid.pairwise (h : Laid files rolled current) :
    files.entries.Pairwise ReplaysBefore := by
  have hlt : (((List.range' 1 rolled.length).zip rolled).map Prod.fst).Pairwise (· < ·) := by
    rw [map_fst_rolled]
    exact List.pairwise_lt_range'
  rw [h, List.pairwise_append]
  refine ⟨?_, ?_, ?_⟩
  · refine (List.pairwise_map.mp hlt).imp_of_mem fun {a b} ha _ hab => ?_
    have hpos := (mem_rolled ha).1
    unfold ReplaysBefore
    omega
  · cases current with
    | none => exact .nil
    | some bytes => exact List.pairwise_singleton _ _
  · intro a _ b hb
    obtain ⟨bytes, -, rfl⟩ := List.mem_map.mp hb
    exact .inl rfl

lemma Laid.segmentsInOrder (h : Laid files rolled current) :
    segmentsInOrder files = rolled ++ current.toList := by
  unfold WebBridge.segmentsInOrder
  rw [h.pairwise.insertionSort_eq, h, List.map_append, map_snd_rolled, List.map_map]
  exact congrArg _ (List.map_id _)

lemma Laid.get?_zero (h : Laid files rolled current) : files.get? 0 = current := by
  have hmem : ∀ bytes, files.get? 0 = some bytes ↔ current = some bytes := by
    intro bytes
    rw [← files.mem_entries_iff, h, List.mem_append, List.mem_map]
    constructor
    · rintro (hrolled | ⟨b, hb, heq⟩)
      · have hpos := (mem_rolled hrolled).1
        omega
      · obtain rfl : b = bytes := (Prod.mk.inj heq).2
        exact Option.mem_toList.mp hb
    · intro hcurrent
      exact .inr ⟨bytes, Option.mem_toList.mpr hcurrent, rfl⟩
  exact Option.ext hmem

lemma foldl_max_range' (n : ℕ) : (List.range' 1 n).foldl max 0 = n := by
  induction n with
  | zero => rfl
  | succ n ih =>
    rw [List.range'_concat, List.foldl_append, ih]
    simp only [List.foldl_cons, List.foldl_nil]
    omega

lemma Laid.nextIdx (h : Laid files rolled current) :
    nextIdx files = rolled.length + 1 := by
  have hcurrent : (current.toList.map (Prod.mk 0)).map Prod.fst =
      current.toList.map (fun _ : ByteArray => 0) := by
    rw [List.map_map]
    rfl
  have hrolled : (List.range' 1 rolled.length).filter (fun idx => decide (idx ≠ 0)) =
      List.range' 1 rolled.length := by
    refine List.filter_eq_self.mpr fun idx hidx => ?_
    rw [List.mem_range'_1] at hidx
    simp only [ne_eq, decide_not, Bool.not_eq_true', decide_eq_false_iff_not]
    omega
  have hzero : (current.toList.map fun _ : ByteArray => 0).filter (fun idx => decide (idx ≠ 0)) =
      [] := by
    cases current <;> rfl
  unfold WebBridge.nextIdx
  rw [h, List.map_append, map_fst_rolled, hcurrent, List.filter_append, hrolled, hzero,
    List.append_nil, foldl_max_range']

/-- Rolling over makes the current file the last of the rolled ones. -/
lemma Laid.rotate {bytes : ByteArray} (h : Laid files rolled (some bytes)) :
    Laid (rotate files) (rolled ++ [bytes]) none := by
  have herase : (files.erase 0).entries = (List.range' 1 rolled.length).zip rolled := by
    show files.entries.filter (fun entry => decide (entry.1 ≠ 0)) = _
    have hkeep : ((List.range' 1 rolled.length).zip rolled).filter
        (fun entry => decide (entry.1 ≠ 0)) = (List.range' 1 rolled.length).zip rolled := by
      refine List.filter_eq_self.mpr fun entry hentry => ?_
      have hpos := (mem_rolled hentry).1
      simp only [ne_eq, decide_not, Bool.not_eq_true', decide_eq_false_iff_not]
      omega
    rw [h, List.filter_append, hkeep]
    exact List.append_nil _
  have hfresh : (files.erase 0).get? (rolled.length + 1) = none := by
    refine Dict.find_eq_none.mpr ?_
    rw [herase, map_fst_rolled, List.mem_range'_1]
    omega
  unfold WebBridge.rotate
  rw [h.get?_zero]
  show ((files.erase 0).set (WebBridge.nextIdx files) bytes).entries = _
  rw [h.nextIdx, Dict.entries_set_of_get?_eq_none hfresh, herase, List.length_append,
    List.length_singleton, List.range'_concat, List.zip_append (by simp)]
  simp [Nat.add_comm]

/-- Writing to the current file leaves the rolled ones alone. -/
lemma Laid.set (h : Laid files rolled current) (bytes : ByteArray) :
    Laid (files.set 0 bytes) rolled (some bytes) := by
  have hassign : ∀ es : List (ℕ × ByteArray), (∀ entry ∈ es, 1 ≤ entry.1) →
      Dict.assign (es ++ current.toList.map (Prod.mk 0)) 0 bytes = es ++ [(0, bytes)] := by
    intro es hes
    induction es with
    | nil => cases current <;> rfl
    | cons entry es ih =>
      rw [List.forall_mem_cons] at hes
      have hne : entry.1 ≠ 0 := by
        have hpos := hes.1
        omega
      rw [List.cons_append, Dict.assign, if_neg hne, ih hes.2]
      rfl
  show Dict.assign files.entries 0 bytes = _
  rw [h]
  exact hassign _ fun entry hentry => (mem_rolled hentry).1

/-- What is in the files when a line is about to be written: the current file is still there, or
it has just been rolled over. -/
lemma Laid.makeRoom (h : Laid files rolled current) (maxBytes : ℤ) (line : ByteArray) :
    Laid (makeRoom maxBytes files line) rolled current ∨
      ∃ bytes, current = some bytes ∧
        Laid (makeRoom maxBytes files line) (rolled ++ [bytes]) none := by
  unfold WebBridge.makeRoom
  rw [h.get?_zero]
  dsimp only
  split_ifs with hfull
  · right
    cases current with
    | none => exact absurd hfull.1 (Nat.lt_irrefl 0)
    | some bytes => exact ⟨bytes, rfl, h.rotate⟩
  · exact .inl h

end Layout

end WebBridge

end MiniatureWarehouse
