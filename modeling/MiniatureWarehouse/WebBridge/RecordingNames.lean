import MiniatureWarehouse.Deploy.RunIds

/-!
# The names of recorded runs

All runs share one directory, and what belongs to a run is found by the names of the files:
`events-<run>.jsonl` is its current file and `events-<run>.<k>.jsonl` its `k`-th rolled segment.
A run id is made safe first, so that the only dots in a name are those of the suffixes: a name is
then read back as its run and its number (`parseSegment_segmentName`), and the globs find what they
are meant to find.
-/

namespace MiniatureWarehouse

namespace WebBridge

open Deploy (DecimalDigits)

/-- The code point of `.`. -/
def dot : CodePoint := .ofChar '.'

/-- `_FILE_PREFIX`. -/
def filePrefix : PyStr := .ofChars "events-".toList

/-- `_FILE_SUFFIX`. -/
def fileSuffix : PyStr := .ofChars ".jsonl".toList

/-- Is the code point in a range of characters? -/
def inRange (first last : Char) (c : CodePoint) : Bool :=
  decide (first.toNat ≤ c.val) && decide (c.val ≤ last.toNat)

/-- The characters `[A-Za-z0-9_-]`. -/
def safeChar (c : CodePoint) : Bool :=
  inRange 'A' 'Z' c || inRange 'a' 'z' c || inRange '0' '9' c || c = .ofChar '_' || c = .ofChar '-'

/-- A run id as it stands in the names of files. -/
structure RunId where
  chars : PyStr
  ne_nil : chars ≠ []
  safe : ∀ c ∈ chars, safeChar c = true

lemma RunId.ext {r s : RunId} (h : r.chars = s.chars) : r = s := by
  cases r
  cases s
  congr

lemma RunId.chars_injective : Function.Injective RunId.chars := fun _ _ => RunId.ext

instance decEqRunId : DecidableEq RunId := fun r s =>
  decidable_of_iff (r.chars = s.chars) ⟨RunId.ext, congrArg RunId.chars⟩

/-- `re.sub` of one character. -/
def safeOr (c : CodePoint) : CodePoint := if safeChar c then c else .ofChar '_'

lemma safeChar_safeOr (c : CodePoint) : safeChar (safeOr c) = true := by
  unfold safeOr
  split_ifs with h
  · exact h
  · decide

/-- `_safe_run_id`. -/
def safeRunId : PyStr → RunId
  | [] => ⟨.ofChars "unknown".toList, by decide, List.all_eq_true.mp (by decide)⟩
  | c :: cs => ⟨(c :: cs).map safeOr, by simp, by
      intro d hd
      obtain ⟨e, -, rfl⟩ := List.mem_map.mp hd
      exact safeChar_safeOr e⟩

section Names

variable (digits : DecimalDigits)

/-- `int` of some digits. -/
def digitsValue (ds : PyStr) : Option ℕ :=
  (ds.mapM digits.value).map fun vs => vs.foldl (fun n d => 10 * n + d) 0

/-- The number that `(?:\.(\d+))?` reads from what lies between the run and the suffix. -/
def optionalNumber : PyStr → Option ℕ
  | [] => some 0
  | c :: ds => if c = dot ∧ ds ≠ [] then digitsValue digits ds else none

/-- What the pattern reads behind the run: `(?:\.(\d+))?\.jsonl$`. -/
def segmentNumber (rest : PyStr) : Option ℕ :=
  let front := rest.take (rest.length - fileSuffix.length)
  if front ++ fileSuffix = rest then optionalNumber digits front else none

/-- The lazy `(?P<run>.+?)`: the shortest run behind which the rest of the pattern matches.  The
characters read so far come last first. -/
def parseFrom (read : PyStr) : PyStr → Option (PyStr × ℕ)
  | [] => none
  | c :: rest =>
    if c = .ofChar '\n' then none
    else
      match segmentNumber digits rest with
      | some idx => some ((c :: read).reverse, idx)
      | none => parseFrom (c :: read) rest

/-- `_parse_segment`. -/
def parseSegment (name : PyStr) : Option (PyStr × ℕ) :=
  if filePrefix <+: name then parseFrom digits [] (name.drop filePrefix.length) else none

end Names

/-- `glob(f"{front}*.jsonl")`, for a front without special characters. -/
def matchesGlob (front name : PyStr) : Bool :=
  decide (front <+: name) && decide (fileSuffix <:+ name) &&
    decide (front.length + fileSuffix.length ≤ name.length)

/-- `current_path`. -/
def currentName (run : RunId) : PyStr := filePrefix ++ (run.chars ++ fileSuffix)

/-- The name of a rolled segment. -/
def rolledName (run : RunId) (idx : ℕ) : PyStr :=
  filePrefix ++ (run.chars ++ (dot :: PyStr.ofChars (Nat.toDigits 10 idx) ++ fileSuffix))

/-- The name of a segment by its number; `0` is the current file. -/
def segmentName (run : RunId) (idx : ℕ) : PyStr :=
  if idx = 0 then currentName run else rolledName run idx

/-! ## Names are read back -/

lemma dot_notMem (run : RunId) : dot ∉ run.chars := by
  intro h
  have hsafe := run.safe dot h
  revert hsafe
  decide

lemma ne_dot_of_mem {run : RunId} {c : CodePoint} (h : c ∈ run.chars) : c ≠ dot := by
  rintro rfl
  exact dot_notMem run h

lemma newline_notMem (run : RunId) : CodePoint.ofChar '\n' ∉ run.chars := by
  intro h
  have hsafe := run.safe _ h
  revert hsafe
  decide

section Reading

variable (digits : DecimalDigits)

/-- Digits are read as their number. -/
lemma digitsValue_toDigits (n : ℕ) :
    digitsValue digits (.ofChars (Nat.toDigits 10 n)) = some n := by
  have hdigit : ∀ c ∈ Nat.toDigits 10 n, c.isDigit = true := fun c hc =>
    Nat.isDigit_of_mem_toDigits (by decide) (by decide) hc
  have hmap : ∀ cs : List Char, (∀ c ∈ cs, c.isDigit = true) →
      (PyStr.ofChars cs).mapM digits.value = some (cs.map fun c => c.toNat - '0'.toNat) := by
    intro cs hcs
    induction cs with
    | nil => rfl
    | cons c cs ih =>
      have htail := ih fun d hd => hcs d (List.mem_cons_of_mem c hd)
      unfold PyStr.ofChars at htail ⊢
      rw [List.map_cons, List.mapM_cons, htail, digits.ascii c (hcs c List.mem_cons_self)]
      rfl
  have hvalue := Nat.ofDigitChars_ten_toDigits (n := n)
  rw [Nat.ofDigitChars_eq_foldl] at hvalue
  unfold digitsValue
  rw [hmap _ hdigit, Option.map_some, List.foldl_map, hvalue]

/-- What stands behind the run in the name of a segment. -/
def tailOfSegment (idx : ℕ) : PyStr :=
  if idx = 0 then fileSuffix else dot :: PyStr.ofChars (Nat.toDigits 10 idx) ++ fileSuffix

lemma segmentName_eq (run : RunId) (idx : ℕ) :
    segmentName run idx = filePrefix ++ (run.chars ++ tailOfSegment idx) := by
  unfold segmentName tailOfSegment currentName rolledName
  split_ifs <;> rfl

lemma segmentNumber_append (front : PyStr) :
    segmentNumber digits (front ++ fileSuffix) = optionalNumber digits front := by
  have htake : (front ++ fileSuffix).take ((front ++ fileSuffix).length - fileSuffix.length) =
      front := by
    rw [List.length_append, Nat.add_sub_cancel, List.take_left]
  unfold segmentNumber
  rw [htake]
  exact if_pos rfl

/-- The number of a segment is read behind its run. -/
lemma segmentNumber_tailOfSegment (idx : ℕ) :
    segmentNumber digits (tailOfSegment idx) = some idx := by
  unfold tailOfSegment
  split_ifs with hzero
  · rw [hzero]
    exact segmentNumber_append digits []
  · have hne : PyStr.ofChars (Nat.toDigits 10 idx) ≠ [] := by
      simp [PyStr.ofChars]
    rw [segmentNumber_append, optionalNumber, if_pos ⟨rfl, hne⟩, digitsValue_toDigits]

/-- No pattern of a segment begins inside of a run. -/
lemma segmentNumber_of_ne_dot {c : CodePoint} (hc : c ≠ dot) (rest : PyStr) :
    segmentNumber digits (c :: rest) = none := by
  unfold segmentNumber
  dsimp only
  split_ifs with hsuffix
  · generalize (c :: rest).take ((c :: rest).length - fileSuffix.length) = front at hsuffix ⊢
    cases front with
    | nil => exact absurd (List.cons.inj hsuffix).1.symm hc
    | cons d ds =>
      obtain ⟨rfl, -⟩ := List.cons.inj hsuffix
      exact if_neg fun h => hc h.1
  · rfl

/-- The lazy pattern takes the whole run. -/
lemma parseFrom_append {chars : PyStr} (hne : chars ≠ []) (hdot : dot ∉ chars)
    (hline : CodePoint.ofChar '\n' ∉ chars) (read : PyStr) (idx : ℕ) :
    parseFrom digits read (chars ++ tailOfSegment idx) = some (read.reverse ++ chars, idx) := by
  induction chars generalizing read with
  | nil => exact absurd rfl hne
  | cons c cs ih =>
    rw [List.mem_cons, not_or] at hdot hline
    rw [List.cons_append, parseFrom, if_neg (Ne.symm hline.1)]
    cases cs with
    | nil =>
      rw [List.nil_append, segmentNumber_tailOfSegment]
      simp
    | cons d ds =>
      have hd : d ≠ dot := fun h => hdot.2 (h ▸ List.mem_cons_self)
      rw [List.cons_append, segmentNumber_of_ne_dot digits hd]
      dsimp only
      rw [← List.cons_append, ih (by simp) hdot.2 hline.2]
      simp

/-- **Names are read back.** -/
lemma parseSegment_segmentName (run : RunId) (idx : ℕ) :
    parseSegment digits (segmentName run idx) = some (run.chars, idx) := by
  unfold parseSegment
  rw [segmentName_eq, if_pos (List.prefix_append _ _), List.drop_left]
  exact parseFrom_append digits run.ne_nil (dot_notMem run) (newline_notMem run) [] idx

end Reading

/-- A name belongs to one segment of one run. -/
lemma segmentName_inj (digits : DecimalDigits) {r s : RunId} {i j : ℕ} :
    segmentName r i = segmentName s j ↔ r = s ∧ i = j := by
  constructor
  · intro h
    have hparse := parseSegment_segmentName digits r i
    rw [h, parseSegment_segmentName, Option.some.injEq, Prod.mk.injEq] at hparse
    exact ⟨(RunId.ext hparse.1).symm, hparse.2.symm⟩
  · rintro ⟨rfl, rfl⟩
    rfl

lemma suffix_tailOfSegment (idx : ℕ) : ∃ front, tailOfSegment idx = front ++ fileSuffix := by
  unfold tailOfSegment
  split_ifs
  · exact ⟨[], rfl⟩
  · exact ⟨_, rfl⟩

/-- What a glob finds. -/
lemma matchesGlob_append (front middle : PyStr) :
    matchesGlob front (front ++ (middle ++ fileSuffix)) = true := by
  unfold matchesGlob
  rw [Bool.and_eq_true, Bool.and_eq_true, decide_eq_true_eq, decide_eq_true_eq, decide_eq_true_eq]
  refine ⟨⟨List.prefix_append _ _, ?_⟩, ?_⟩
  · rw [← List.append_assoc]
    exact List.suffix_append _ _
  · simp only [List.length_append]
    omega

lemma matchesGlob_starts (run : RunId) (idx : ℕ) :
    matchesGlob filePrefix (segmentName run idx) = true := by
  obtain ⟨front, hfront⟩ := suffix_tailOfSegment idx
  rw [segmentName_eq, hfront, ← List.append_assoc run.chars]
  exact matchesGlob_append _ _

lemma matchesGlob_run (run : RunId) (idx : ℕ) :
    matchesGlob (filePrefix ++ run.chars) (segmentName run idx) = true := by
  obtain ⟨front, hfront⟩ := suffix_tailOfSegment idx
  rw [segmentName_eq, hfront, ← List.append_assoc filePrefix]
  exact matchesGlob_append _ _

/-- The glob of the rolled segments finds those of its run alone, and not the current file. -/
lemma matchesGlob_rolled (run other : RunId) (idx : ℕ) :
    matchesGlob (filePrefix ++ (run.chars ++ [dot])) (segmentName other idx) = true ↔
      other = run ∧ idx ≠ 0 := by
  constructor
  · intro h
    unfold matchesGlob at h
    rw [Bool.and_eq_true, Bool.and_eq_true, decide_eq_true_eq, decide_eq_true_eq,
      decide_eq_true_eq] at h
    obtain ⟨⟨⟨rest, hrest⟩, -⟩, hlength⟩ := h
    rw [segmentName_eq, List.append_assoc, List.append_cancel_left_eq, List.append_assoc] at hrest
    have hrun : ∀ (r : RunId) (cs : PyStr), (r.chars ++ dot :: cs).takeWhile (· ≠ dot) = r.chars := by
      intro r cs
      rw [List.takeWhile_append_of_pos fun c hc => decide_eq_true (ne_dot_of_mem hc)]
      simp
    have htail : ∃ cs, tailOfSegment idx = dot :: cs := by
      unfold tailOfSegment
      split_ifs
      · exact ⟨_, rfl⟩
      · exact ⟨_, rfl⟩
    obtain ⟨cs, hcs⟩ := htail
    have hchars : run.chars = other.chars := by
      rw [← hrun run rest, ← hrun other cs, ← hcs, ← hrest]
      rfl
    refine ⟨(RunId.ext hchars).symm, ?_⟩
    rintro rfl
    simp only [segmentName_eq, tailOfSegment, if_pos, List.length_append, hchars,
      List.length_singleton] at hlength
    omega
  · rintro ⟨rfl, hidx⟩
    rw [segmentName_eq, tailOfSegment, if_neg hidx]
    have hsplit : filePrefix ++ (other.chars ++ (dot :: PyStr.ofChars (Nat.toDigits 10 idx) ++
        fileSuffix)) = (filePrefix ++ (other.chars ++ [dot])) ++
          (PyStr.ofChars (Nat.toDigits 10 idx) ++ fileSuffix) := by
      simp
    rw [hsplit]
    exact matchesGlob_append _ _

end WebBridge

end MiniatureWarehouse
