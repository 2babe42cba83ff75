import MiniatureWarehouse.Framework.CodePoints
import MiniatureWarehouse.Framework.Runs

/-!
# The identifiers of recorded runs

A recording on the board gets the identifier `YYYYMMDD-NNN`, with a slug appended when the operator
gives one, and its directory gets the identifier's name.  No counter is kept: the next number is one
above the highest the directory names of the day show.

The names are read through a pattern of exactly three digits, and the number is written with at
least three.  So a number of four digits is read back as its first three, and the allocation is
fresh exactly when no run of the day has such a number (`run_ids_fresh`).
-/

namespace MiniatureWarehouse

namespace Deploy

/-- The value a character has as a decimal digit, for the characters `\d` matches: those of every
script, the ASCII ones among them. -/
structure DecimalDigits where
  value : CodePoint → Option ℕ
  lt_ten : ∀ c d, value c = some d → d < 10
  ascii : ∀ c : Char, c.isDigit → value (.ofChar c) = some (c.toNat - '0'.toNat)

/-- The code point of `-`. -/
def dash : CodePoint := .ofChar '-'

/-- The code point of `/`. -/
def slash : CodePoint := .ofChar '/'

/-- The text of a date.  It is one component of a path. -/
structure Day where
  text : PyStr
  slash_notMem : slash ∉ text

/-- An entry of a directory. -/
structure Entry where
  name : PyStr
  isDir : Bool
  deriving DecidableEq

/-- What is found at the path of the bags directory. -/
inductive BagsDir
  | missing
  | file
  | dir (entries : List Entry)

/-- `iterdir`, guarded by `is_dir`. -/
def BagsDir.entries : BagsDir → List Entry
  | .dir entries => entries
  | _ => []

/-! ## Allocation -/

/-- `f"{n:03d}"`. -/
def numberText (n : ℕ) : PyStr := .ofChars (format03d n).toList

/-- `f"{date}-{n:03d}"`. -/
def runIdPart (day : Day) (n : ℕ) : PyStr := day.text ++ dash :: numberText n

/-- The identifier with the slug, when there is one. -/
def runId (day : Day) (n : ℕ) : Option PyStr → PyStr
  | none | some [] => runIdPart day n
  | some slug => runIdPart day n ++ dash :: slug

section Allocation

variable (digits : DecimalDigits)

/-- `int` of what `(\d{3})` matches at the front of a text. -/
def threeDigits : PyStr → Option ℕ
  | a :: b :: c :: _ =>
    (digits.value a).bind fun x => (digits.value b).bind fun y => (digits.value c).map fun z =>
      100 * x + 10 * y + z
  | _ => none

/-- The number read from a name through `^{re.escape(date)}-(\d{3})`. -/
def matchNumber (day : Day) (name : PyStr) : Option ℕ :=
  if (day.text ++ [dash]).isPrefixOf name then
    threeDigits digits (name.drop (day.text ++ [dash]).length)
  else none

/-- One turn of the loop over the entries. -/
def raise (day : Day) (highest : ℕ) (entry : Entry) : ℕ :=
  if entry.isDir then
    match matchNumber digits day entry.name with
    | some n => max highest n
    | none => highest
  else highest

/-- `allocate_run_id`. -/
def allocateRunId (bags : BagsDir) (day : Day) (slug : Option PyStr) : PyStr :=
  let highest := bags.entries.foldl (raise digits day) 0
  runId day (highest + 1) slug

/-- An identifier with a separator in its slug names nested directories; this is the outermost. -/
def topComponent (id : PyStr) : PyStr := id.takeWhile (· ≠ slash)

/-- `mkdir(parents=True, exist_ok=True)` below `bags_dir / run_id`. -/
def createRun (bags : BagsDir) (id : PyStr) : Except PyErr BagsDir :=
  match bags with
  | .missing => .ok (.dir [⟨topComponent id, true⟩])
  | .file => .error .osError
  | .dir entries =>
    if ⟨topComponent id, false⟩ ∈ entries then .error .osError
    else if ⟨topComponent id, true⟩ ∈ entries then .ok (.dir entries)
    else .ok (.dir (entries ++ [⟨topComponent id, true⟩]))

/-- A recording that is started: its day and slug, and whether the operating system lets it make
its directory. -/
structure RunRequest where
  day : Day
  slug : Option PyStr
  permitted : Bool

/-- Allocating an identifier and creating its directory. -/
def record (bags : BagsDir) (r : RunRequest) : BagsDir × Except PyErr PyStr :=
  let id := allocateRunId digits bags r.day r.slug
  if r.permitted then
    match createRun bags id with
    | .ok bags => (bags, .ok id)
    | .error e => (bags, .error e)
  else (bags, .error .osError)

/-- The recorder, started time after time. -/
def Recorder : Machine BagsDir RunRequest (Except PyErr PyStr) := ⟨record digits⟩

end Allocation

/-! ## Freshness -/

/-- A name of a run of the day: its identifier, or that and more after a dash. -/
def IsRun (day : Day) (n : ℕ) (name : PyStr) : Prop :=
  name = runIdPart day n ∨ ∃ slug, name = runIdPart day n ++ dash :: slug

/-- The bags directory holds a run of the day with the number `n`. -/
def HasRun (bags : BagsDir) (day : Day) (n : ℕ) : Prop :=
  ∃ entry ∈ bags.entries, entry.isDir ∧ IsRun day n entry.name

/-- An identifier is fresh: its number is above those of the day's runs, and it is none of their
identifiers. -/
def Fresh (bags : BagsDir) (day : Day) (slug : Option PyStr) (id : PyStr) : Prop :=
  ∃ m, id = runId day m slug ∧ ∀ n, HasRun bags day n → n < m ∧ id ≠ runIdPart day n

/-- Every run of the day has a number of three digits. -/
def ThreeDigitRuns (bags : BagsDir) (day : Day) : Prop := ∀ n, HasRun bags day n → n < 1000

/-- The earlier of two recordings of one day has the smaller number. -/
def Increasing (p q : RunRequest × Except PyErr PyStr) : Prop :=
  p.1.day = q.1.day → ∀ id id', p.2 = .ok id → q.2 = .ok id' →
    ∃ m n, m < n ∧ id = runId p.1.day m p.1.slug ∧ id' = runId q.1.day n q.1.slug

/-! ## The digits of a number -/

lemma toList_format03d (n : ℕ) : (format03d n).toList =
    List.replicate (3 - (toString n).length) '0' ++ Nat.toDigits 10 n := by
  unfold format03d
  rw [String.toList_append, toList_pushn, Nat.toString_eq_repr, Nat.toList_repr]

lemma isDigit_of_mem_format03d {n : ℕ} {c : Char} (hc : c ∈ (format03d n).toList) :
    c.isDigit := by
  rw [toList_format03d, List.mem_append] at hc
  rcases hc with hzero | hdigit
  · rw [List.eq_of_mem_replicate hzero]
    rfl
  · exact Nat.isDigit_of_mem_toDigits (by omega) (by omega) hdigit

lemma length_format03d {n : ℕ} (hn : n < 1000) : (format03d n).toList.length = 3 := by
  have hdigits : (Nat.toDigits 10 n).length ≤ 3 :=
    (Nat.length_toDigits_le_iff (by omega) (by omega)).mpr hn
  have hrepr : (toString n).length = (Nat.toDigits 10 n).length := by
    rw [Nat.toString_eq_repr, ← String.length_toList, Nat.toList_repr]
  rw [toList_format03d, List.length_append, List.length_replicate, hrepr]
  omega

lemma ofChar_injective : Function.Injective CodePoint.ofChar := by
  intro c d h
  have hval : (CodePoint.ofChar c).val = (CodePoint.ofChar d).val := by rw [h]
  exact Char.toNat_inj.mp hval

lemma notMem_numberText {c : Char} (hc : ¬ c.isDigit) (n : ℕ) :
    CodePoint.ofChar c ∉ numberText n := by
  intro hmem
  obtain ⟨d, hd, heq⟩ := List.mem_map.mp hmem
  rw [ofChar_injective heq] at hd
  exact hc (isDigit_of_mem_format03d hd)

lemma dash_notMem_numberText (n : ℕ) : dash ∉ numberText n := notMem_numberText (by decide) n

lemma slash_notMem_numberText (n : ℕ) : slash ∉ numberText n := notMem_numberText (by decide) n

lemma numberText_injective : Function.Injective numberText := by
  intro m n h
  have hchars : (format03d m).toList = (format03d n).toList :=
    List.map_injective_iff.mpr ofChar_injective h
  exact format03d_injective (String.toList_inj.mp hchars)

section Reading

variable {digits : DecimalDigits}

variable (digits) in
/-- A number of three digits is read back. -/
lemma threeDigits_numberText {n : ℕ} (hn : n < 1000) (rest : PyStr) :
    threeDigits digits (numberText n ++ rest) = some n := by
  have hread := ofDigitChars_format03d n
  have hdigit : ∀ c ∈ (format03d n).toList, c.isDigit := fun c => isDigit_of_mem_format03d
  unfold numberText PyStr.ofChars
  obtain ⟨a, b, c, habc⟩ := List.length_eq_three.mp (length_format03d hn)
  rw [habc] at hread hdigit ⊢
  have ha := digits.ascii a (hdigit a (by simp))
  have hb := digits.ascii b (hdigit b (by simp))
  have hc := digits.ascii c (hdigit c (by simp))
  simp only [Nat.ofDigitChars, List.foldl_cons, List.foldl_nil] at hread
  simp only [threeDigits, List.map_cons, List.map_nil, List.cons_append, ha, hb, hc,
    Option.bind_some, Option.map_some, Option.some.injEq]
  omega

/-- Three digits make a number below a thousand. -/
lemma threeDigits_lt {s : PyStr} {n : ℕ} (h : threeDigits digits s = some n) : n < 1000 := by
  match s, h with
  | a :: b :: c :: rest, h =>
    simp only [threeDigits, Option.bind_eq_some_iff, Option.map_eq_some_iff] at h
    obtain ⟨x, hx, y, hy, z, hz, rfl⟩ := h
    have := digits.lt_ten a x hx
    have := digits.lt_ten b y hy
    have := digits.lt_ten c z hz
    omega

lemma matchNumber_append (day : Day) (rest : PyStr) :
    matchNumber digits day (day.text ++ dash :: rest) = threeDigits digits rest := by
  have hsplit : day.text ++ dash :: rest = (day.text ++ [dash]) ++ rest := by simp
  unfold matchNumber
  rw [hsplit, if_pos (by simp), List.drop_left]

lemma matchNumber_lt {day : Day} {name : PyStr} {n : ℕ}
    (h : matchNumber digits day name = some n) : n < 1000 := by
  unfold matchNumber at h
  split at h
  · exact threeDigits_lt h
  · cases h

/-- The pattern reads the number of a run, when it has three digits. -/
lemma matchNumber_of_isRun {day : Day} {name : PyStr} {n : ℕ} (h : IsRun day n name)
    (hn : n < 1000) : matchNumber digits day name = some n := by
  have hread := threeDigits_numberText digits hn
  rcases h with rfl | ⟨slug, rfl⟩
  · unfold runIdPart
    rw [matchNumber_append, ← List.append_nil (numberText n), hread]
  · unfold runIdPart
    rw [List.append_assoc, List.cons_append, matchNumber_append, hread]

/-! ## The highest number -/

lemma le_raise (day : Day) (highest : ℕ) (entry : Entry) :
    highest ≤ raise digits day highest entry := by
  unfold raise
  split
  · split
    · exact Nat.le_max_left _ _
    · exact Nat.le_refl _
  · exact Nat.le_refl _

lemma raise_lt {day : Day} {highest : ℕ} (entry : Entry) (h : highest < 1000) :
    raise digits day highest entry < 1000 := by
  unfold raise
  split
  · split
    next n hmatch => exact Nat.max_lt.mpr ⟨h, matchNumber_lt hmatch⟩
    next => exact h
  · exact h

lemma le_foldl_raise (day : Day) (entries : List Entry) (highest : ℕ) :
    highest ≤ entries.foldl (raise digits day) highest := by
  induction entries generalizing highest with
  | nil => exact Nat.le_refl _
  | cons entry entries ih => exact (le_raise day highest entry).trans (ih _)

variable (digits) in
/-- The loop never gets beyond three digits. -/
lemma foldl_raise_lt (day : Day) (entries : List Entry) {highest : ℕ} (h : highest < 1000) :
    entries.foldl (raise digits day) highest < 1000 := by
  induction entries generalizing highest with
  | nil => exact h
  | cons entry entries ih => exact ih (raise_lt entry h)

variable (digits) in
/-- The number of a run of three digits is seen. -/
lemma le_highest {day : Day} {entries : List Entry} {entry : Entry} {n : ℕ}
    (hmem : entry ∈ entries) (hdir : entry.isDir) (hrun : IsRun day n entry.name) (hn : n < 1000)
    (highest : ℕ) : n ≤ entries.foldl (raise digits day) highest := by
  induction entries generalizing highest with
  | nil => simp at hmem
  | cons e entries ih =>
    rcases List.mem_cons.mp hmem with rfl | hmem
    · have hraise : n ≤ raise digits day highest entry := by
        unfold raise
        rw [if_pos hdir, matchNumber_of_isRun hrun hn]
        exact Nat.le_max_right _ _
      exact hraise.trans (le_foldl_raise day entries _)
    · exact ih hmem _

variable (digits) in
/-- The number allocated next. -/
lemma exists_allocateRunId (bags : BagsDir) (day : Day) (slug : Option PyStr) :
    ∃ m ≤ 1000, allocateRunId digits bags day slug = runId day m slug ∧
      ∀ n < 1000, HasRun bags day n → n < m := by
  refine ⟨bags.entries.foldl (raise digits day) 0 + 1, ?_, rfl, ?_⟩
  · have := foldl_raise_lt digits day bags.entries (by omega : 0 < 1000)
    omega
  · rintro n hn ⟨entry, hmem, hdir, hrun⟩
    have := le_highest digits hmem hdir hrun hn 0
    omega

end Reading

/-! ## Identifiers -/

/-- An identifier is that of a run with its number. -/
lemma isRun_runId (day : Day) (n : ℕ) (slug : Option PyStr) : IsRun day n (runId day n slug) := by
  match slug with
  | none => exact .inl rfl
  | some [] => exact .inl rfl
  | some (c :: cs) => exact .inr ⟨c :: cs, rfl⟩

/-- The number of an identifier is told by the identifier. -/
lemma IsRun.number_eq {day : Day} {m n : ℕ} {name : PyStr} (hm : IsRun day m name)
    (hn : IsRun day n name) : m = n := by
  have htake : ∀ k, IsRun day k name →
      (name.drop (day.text.length + 1)).takeWhile (· ≠ dash) = numberText k := by
    intro k hk
    have hdigits : ∀ c ∈ numberText k, decide (c ≠ dash) := by
      intro c hc
      rw [decide_eq_true_eq]
      rintro rfl
      exact dash_notMem_numberText k hc
    rcases hk with rfl | ⟨slug, rfl⟩
    · unfold runIdPart
      rw [List.drop_append, List.drop_of_length_le (by omega), Nat.add_sub_cancel_left,
        List.drop_one, List.tail_cons, List.nil_append, List.takeWhile_eq_self_iff]
      exact hdigits
    · unfold runIdPart
      rw [List.append_assoc, List.drop_append, List.drop_of_length_le (by omega),
        Nat.add_sub_cancel_left, List.cons_append, List.drop_one, List.tail_cons, List.nil_append,
        List.takeWhile_append_of_pos hdigits, List.takeWhile_cons_of_neg (by simp),
        List.append_nil]
  exact numberText_injective ((htake m hm).symm.trans (htake n hn))

/-- Neither the day nor the number has a separator in it, so the outermost directory is one of a
run with the number. -/
lemma isRun_topComponent {day : Day} {n : ℕ} {id : PyStr} (h : IsRun day n id) :
    IsRun day n (topComponent id) := by
  have hpart : ∀ c ∈ runIdPart day n, decide (c ≠ slash) := by
    intro c hc
    rw [decide_eq_true_eq]
    rintro rfl
    rcases List.mem_append.mp hc with hday | hrest
    · exact day.slash_notMem hday
    · rcases List.mem_cons.mp hrest with hdash | hnumber
      · exact absurd hdash (by decide)
      · exact slash_notMem_numberText n hnumber
  unfold topComponent
  rcases h with rfl | ⟨slug, rfl⟩
  · rw [List.takeWhile_eq_self_iff.mpr hpart]
    exact .inl rfl
  · rw [List.takeWhile_append_of_pos hpart, List.takeWhile_cons_of_pos (by decide)]
    exact .inr ⟨_, rfl⟩

/-! ## Creation -/

/-- Creating a directory removes none. -/
lemma HasRun.createRun {bags bags' : BagsDir} {id : PyStr} {day : Day} {n : ℕ}
    (h : HasRun bags day n) (hcreate : Deploy.createRun bags id = .ok bags') :
    HasRun bags' day n := by
  obtain ⟨entry, hmem, hrun⟩ := h
  unfold Deploy.createRun at hcreate
  cases bags with
  | missing => cases hmem
  | file => cases hmem
  | dir entries =>
    dsimp only at hcreate
    split_ifs at hcreate with hfile hdir
    · cases hcreate
      exact ⟨entry, hmem, hrun⟩
    · cases hcreate
      exact ⟨entry, List.mem_append_left _ hmem, hrun⟩

/-- The directory of a run is there once it is created. -/
lemma hasRun_of_createRun {bags bags' : BagsDir} {id : PyStr} {day : Day} {n : ℕ}
    (hid : IsRun day n id) (hcreate : createRun bags id = .ok bags') : HasRun bags' day n := by
  have hrun := isRun_topComponent hid
  suffices hmem : ⟨topComponent id, true⟩ ∈ bags'.entries from ⟨_, hmem, rfl, hrun⟩
  unfold createRun at hcreate
  cases bags with
  | missing =>
    cases hcreate
    exact List.mem_singleton_self _
  | file => cases hcreate
  | dir entries =>
    dsimp only at hcreate
    split_ifs at hcreate with hfile hdir
    · cases hcreate
      exact hdir
    · cases hcreate
      exact List.mem_append_right _ (List.mem_singleton_self _)

section Recording

variable {digits : DecimalDigits}

variable (digits) in
/-- What a step of the recorder does: it creates the directory of the identifier it puts out, or
fails and leaves the directory as it was. -/
lemma record_cases (bags : BagsDir) (r : RunRequest) :
    (∃ bags', createRun bags (allocateRunId digits bags r.day r.slug) = .ok bags' ∧
      record digits bags r = (bags', .ok (allocateRunId digits bags r.day r.slug))) ∨
    ∃ e, record digits bags r = (bags, .error e) := by
  unfold record
  dsimp only
  split_ifs with hpermitted
  · cases hcreate : createRun bags (allocateRunId digits bags r.day r.slug) with
    | ok bags' => exact .inl ⟨bags', rfl, rfl⟩
    | error e => exact .inr ⟨e, rfl⟩
  · exact .inr ⟨_, rfl⟩

lemma HasRun.record {bags : BagsDir} {day : Day} {n : ℕ} (h : HasRun bags day n) (r : RunRequest) :
    HasRun (Deploy.record digits bags r).1 day n := by
  rcases record_cases digits bags r with ⟨bags', hcreate, hrecord⟩ | ⟨e, hrecord⟩
  · rw [hrecord]
    exact h.createRun hcreate
  · rw [hrecord]
    exact h

/-- A run that is there has a smaller number than every later one of its day. -/
lemma lt_of_hasRun {bags : BagsDir} {requests : List RunRequest} {day : Day} {n : ℕ}
    (h : HasRun bags day n)
    (hall : (Recorder digits).AllSteps (fun bags r => ThreeDigitRuns bags r.day) bags requests)
    {q : RunRequest × Except PyErr PyStr}
    (hq : q ∈ requests.zip ((Recorder digits).outputs bags requests)) (hday : q.1.day = day)
    {id : PyStr} (hid : q.2 = .ok id) : ∃ m, n < m ∧ id = runId day m q.1.slug := by
  induction requests generalizing bags with
  | nil => simp at hq
  | cons r requests ih =>
    rw [Machine.outputs_cons, List.zip_cons_cons, List.mem_cons] at hq
    rcases hq with rfl | hlater
    · obtain ⟨m, -, hm, hbelow⟩ := exists_allocateRunId digits bags r.day r.slug
      have hstep : ((Recorder digits).step bags r).2 = (record digits bags r).2 := rfl
      dsimp only at hday hid
      rw [hstep] at hid
      subst hday
      rcases record_cases digits bags r with ⟨bags', -, hrecord⟩ | ⟨e, hrecord⟩
      · rw [hrecord] at hid
        cases hid
        exact ⟨m, hbelow n (hall.1 n h) h, hm⟩
      · rw [hrecord] at hid
        cases hid
    · exact ih (h.record r) hall.2 hlater

/-- The numbers of a day increase. -/
lemma pairwise_increasing {bags : BagsDir} {requests : List RunRequest}
    (hall : (Recorder digits).AllSteps (fun bags r => ThreeDigitRuns bags r.day) bags requests) :
    (requests.zip ((Recorder digits).outputs bags requests)).Pairwise Increasing := by
  induction requests generalizing bags with
  | nil => exact .nil
  | cons r requests ih =>
    rw [Machine.outputs_cons, List.zip_cons_cons]
    refine List.pairwise_cons.mpr ⟨?_, ih hall.2⟩
    intro q hq hday id id' hid hid'
    have hstep : ((Recorder digits).step bags r).2 = (record digits bags r).2 := rfl
    dsimp only at hday hid
    rw [hstep] at hid
    rcases record_cases digits bags r with ⟨bags', hcreate, hrecord⟩ | ⟨e, hrecord⟩
    · rw [hrecord] at hid
      cases hid
      obtain ⟨m, -, hm, -⟩ := exists_allocateRunId digits bags r.day r.slug
      have hrun : IsRun r.day m (allocateRunId digits bags r.day r.slug) := by
        rw [hm]
        exact isRun_runId r.day m r.slug
      have hnext : HasRun ((Recorder digits).step bags r).1 r.day m := by
        show HasRun (record digits bags r).1 r.day m
        rw [hrecord]
        exact hasRun_of_createRun hrun hcreate
      obtain ⟨n, hlt, hn⟩ := lt_of_hasRun hnext hall.2 hq hday.symm hid'
      refine ⟨m, n, hlt, hm, ?_⟩
      rw [hn, hday]
    · rw [hrecord] at hid
      cases hid

/-- An identifier is fresh exactly when the runs of the day have three digits: a fourth digit of
a number is written, and not read. -/
lemma fresh_iff (bags : BagsDir) (day : Day) (slug : Option PyStr) :
    Fresh bags day slug (allocateRunId digits bags day slug) ↔ ThreeDigitRuns bags day := by
  obtain ⟨m, hle, hm, hbelow⟩ := exists_allocateRunId digits bags day slug
  rw [hm]
  constructor
  · rintro ⟨k, hk, hfresh⟩ n hn
    have hkm : m = k :=
      (isRun_runId day m slug).number_eq (by rw [hk]; exact isRun_runId day k slug)
    have := (hfresh n hn).1
    omega
  · intro hthree
    refine ⟨m, rfl, fun n hn => ?_⟩
    have hlt := hbelow n (hthree n hn) hn
    refine ⟨hlt, fun heq => ?_⟩
    have hmn : m = n := (isRun_runId day m slug).number_eq (.inl heq)
    omega

end Recording

/-- **Run identifiers are fresh while numbers have three digits.**  The identifier allocated differs
from those of the day's runs, and its number is above theirs, exactly when all of them have numbers
below a thousand; and while that is so at every step, the recordings of a day get strictly
increasing numbers. -/
theorem run_ids_fresh (digits : DecimalDigits) :
    (∀ bags day slug, Fresh bags day slug (allocateRunId digits bags day slug) ↔
      ThreeDigitRuns bags day) ∧
    ∀ bags requests,
      (Recorder digits).AllSteps (fun bags r => ThreeDigitRuns bags r.day) bags requests →
      (requests.zip ((Recorder digits).outputs bags requests)).Pairwise Increasing :=
  ⟨fresh_iff, fun _ _ => pairwise_increasing⟩

/-! ## A thousand runs -/

/-- The ASCII digits alone. -/
def asciiDigits : DecimalDigits where
  value c := if 48 ≤ c.val ∧ c.val ≤ 57 then some (c.val - 48) else none
  lt_ten := by
    intro c d h
    split_ifs at h
    cases h
    omega
  ascii := by
    intro c h
    have hrange : 48 ≤ c.toNat ∧ c.toNat ≤ 57 := Char.isDigit_iff_toNat.mp h
    exact if_pos hrange

/-- A day. -/
def newYear : Day := ⟨.ofChars "20250101".toList, by decide⟩

/-- A directory with two runs of the day. -/
def thousandRuns : BagsDir := .dir [⟨runIdPart newYear 999, true⟩, ⟨runIdPart newYear 1000, true⟩]

/-- After the thousandth run its identifier is handed out again. -/
theorem thousandth_run_again :
    allocateRunId asciiDigits thousandRuns newYear none = runIdPart newYear 1000 ∧
      HasRun thousandRuns newYear 1000 ∧
      ¬ Fresh thousandRuns newYear none (allocateRunId asciiDigits thousandRuns newYear none) := by
  have hagain : allocateRunId asciiDigits thousandRuns newYear none = runIdPart newYear 1000 := by
    decide +kernel
  have hthere : HasRun thousandRuns newYear 1000 :=
    ⟨⟨runIdPart newYear 1000, true⟩, by simp [thousandRuns, BagsDir.entries], rfl, .inl rfl⟩
  refine ⟨hagain, hthere, ?_⟩
  rintro ⟨m, -, hfresh⟩
  exact (hfresh 1000 hthere).2 hagain

/-- Two recordings of a first day. -/
theorem run_ids_fresh_two :
    Fresh .missing newYear none (allocateRunId asciiDigits .missing newYear none) ∧
      ([⟨newYear, none, true⟩, ⟨newYear, some (.ofChars "joystick".toList), true⟩].zip
        ((Recorder asciiDigits).outputs .missing
          [⟨newYear, none, true⟩, ⟨newYear, some (.ofChars "joystick".toList), true⟩])).Pairwise
        Increasing := by
  have hnone : ThreeDigitRuns .missing newYear := by
    rintro n ⟨entry, hmem, -⟩
    cases hmem
  obtain ⟨hfresh, hruns⟩ := run_ids_fresh asciiDigits
  refine ⟨(hfresh _ _ _).mpr hnone, hruns _ _ ⟨hnone, ?_, trivial⟩⟩
  rintro n ⟨entry, hmem, -, hrun⟩
  have hentry : entry = ⟨runIdPart newYear 1, true⟩ := List.mem_singleton.mp hmem
  rw [hentry] at hrun
  have hone : 1 = n := IsRun.number_eq (.inl rfl) hrun
  omega

end Deploy

end MiniatureWarehouse
